import ApiLoad.Proofs.Yaml.Compact.Quoted
import ApiLoad.Yaml.Token.Layout

/-!
# Tokens of compact JSON

Compact text of a portable value is scanned token by token on one line. No key is ever required, so
what the scanner remembers about possible keys matters only at a colon: there the string before it is
still remembered, since it is short enough.
-/
set_option autoImplicit false

namespace ApiLoad.Yaml

open Text (IsPrintable)

/-- What may follow a value: the end of the text or, inside brackets, what ends an item. -/
def EndsValue (inFlow : Bool) (text : List Char) : Prop :=
  text = [] ∨ inFlow = true ∧ ∃ c rest, text = c :: rest ∧ c ∈ [',', ']', '\x7d']

/-- A character that no plain scalar ends at. -/
def IsWordChar (c : Char) : Prop := isSpace c = false ∧ c ≠ ':' ∧ isFlowIndicator c = false

instance (c : Char) : Decidable (IsWordChar c) := inferInstanceAs (Decidable (_ ∧ _))

theorem EndsValue.head {inFlow : Bool} {text : List Char} (h : EndsValue inFlow text) :
    (text.head?.map isSpace).getD false = false := by
  obtain rfl | ⟨-, c, rest, rfl, hEnd⟩ := h
  · rfl
  · rw [List.mem_cons, List.mem_pair] at hEnd
    rcases hEnd with rfl | rfl | rfl <;> rfl

theorem plainRun?_word {inFlow : Bool} {word rest : List Char} (hWord : ∀ c ∈ word, IsWordChar c)
    (hRest : EndsValue inFlow rest) : plainRun? inFlow (word ++ rest) = some word := by
  induction word with
  | nil =>
    obtain rfl | ⟨rfl, c, tail, rfl, hEnd⟩ := hRest
    · rfl
    · rw [List.mem_cons, List.mem_pair] at hEnd
      rcases hEnd with rfl | rfl | rfl <;> rfl
  | cons c word ih =>
    obtain ⟨hSpace, hColon, hIndicator⟩ := hWord c List.mem_cons_self
    rw [List.cons_append, plainRun?, if_neg (by simp [hSpace]), if_neg hColon,
      if_neg (by simp [hIndicator]), ih fun d hd => hWord d (List.mem_cons_of_mem c hd)]
    rfl

theorem plain?_word {inFlow : Bool} {word rest : List Char} (least : Nat) {c : Cursor}
    (hWord : ∀ d ∈ word, IsWordChar d) (hRest : EndsValue inFlow rest) (hText : c.rest = word ++ rest) :
    plain? inFlow least c = some (word, c.skip word.length, false) := by
  have hAfter : (c.skip word.length).rest = rest := by
    rw [Cursor.rest_skip, hText, List.drop_left]
  have hLast : plainRest? inFlow least (c.skip word.length) =
      some ([], c.skip word.length, false) := by
    rw [plainRest?, if_neg (by rw [hAfter, hRest.head]; decide)]
  unfold plain?
  rw [hText, plainRun?_word hWord hRest]
  simp [hLast]

namespace Layout

/-- The scanner is at a text, with the tokens before it, on some line inside `depth` brackets and
braces, and no key is required. -/
structure At (s : Layout) (depth : Nat) (text : List Char) (tokens : List Token) : Prop where
  rest : s.cursor.rest = text
  made : s.tokens = tokens
  depth : s.outer.length = depth
  indents : s.indents = []
  optional : ∀ key : PossibleKey, some key ∈ s.possible :: s.outer → key.required = false

/-- The scanner without the possible keys that can no longer become keys. -/
def fresh (s : Layout) : Layout :=
  { s with
    possible := s.possible.filter (isFresh s.cursor.mark)
    outer := s.outer.map (·.filter (isFresh s.cursor.mark)) }

section At

variable {s : Layout} {depth : Nat} {text : List Char} {tokens : List Token}

theorem At.inFlow (h : s.At depth text tokens) : s.inFlow = decide (0 < depth) := by
  simp [Layout.inFlow, ← h.depth, List.length_pos_iff]

theorem At.not_required (h : s.At depth text tokens) :
    (s.possible.map (·.required)).getD false = false := by
  cases hPossible : s.possible with
  | none => rfl
  | some key => exact h.optional key (hPossible ▸ List.mem_cons_self)

theorem At.dropKey? (h : s.At depth text tokens) :
    s.dropKey? = some { s with possible := none } := by
  rw [Layout.dropKey?, if_neg (by rw [h.not_required]; decide)]

theorem At.dropStale? (h : s.At depth text tokens) : s.dropStale? = some s.fresh := by
  unfold Layout.dropStale?
  refine if_neg fun hAny => ?_
  obtain ⟨key?, hMem, hStale⟩ := List.any_eq_true.1 hAny
  cases key? with
  | none => cases hStale
  | some key =>
    have hRequired : key.required = true := (Bool.and_eq_true_iff.1 hStale).2
    rw [h.optional key hMem] at hRequired
    cases hRequired

theorem At.fresh (h : s.At depth text tokens) : s.fresh.At depth text tokens where
  rest := h.rest
  made := h.made
  depth := (List.length_map ..).trans h.depth
  indents := h.indents
  optional key hKey := by
    refine h.optional key ?_
    rcases List.mem_cons.1 hKey with hKey | hKey
    · exact (Option.filter_eq_some_iff.1 hKey.symm).1 ▸ List.mem_cons_self
    · obtain ⟨key?, hMem, hFiltered⟩ := List.mem_map.1 hKey
      exact List.mem_cons_of_mem _ ((Option.filter_eq_some_iff.1 hFiltered).1 ▸ hMem)

theorem At.closeBlocks (h : s.At depth text tokens) (stays : Nat → Bool) : s.closeBlocks stays = s := by
  unfold Layout.closeBlocks
  split
  · rfl
  · rw [h.indents]
    obtain ⟨cursor, made, indents, possible, outer, keyAllowed⟩ := s
    cases h.indents
    rfl

/-- A character that the scanner does not pass over. -/
def IsSolid (c : Char) : Prop := isSpace c = false ∧ c ≠ '#' ∧ c ≠ '\ufeff'

instance (c : Char) : Decidable (IsSolid c) := inferInstanceAs (Decidable (_ ∧ _))

theorem skipSpace_of_solid (hText : ∀ c ∈ s.cursor.rest.head?, IsSolid c) : s.skipSpace = s := by
  have hNot (mark : Char) (hMark : ¬IsSolid mark) : (s.cursor.rest.head? == some mark) = false := by
    rw [beq_eq_false_iff_ne]
    exact fun hFirst => hMark (hText mark hFirst)
  have hMark := hNot '\ufeff' (by decide)
  have hComment := hNot '#' (by decide)
  have hBreak : (s.cursor.rest.head?.map isBreak).getD false = false := by
    cases hFirst : s.cursor.rest.head? with
    | none => rfl
    | some c => exact (Bool.or_eq_false_iff.1 (hText c hFirst).1).2
  have hSpace (tabs : Bool) :
      s.cursor.dropWhile (fun c => c == ' ' || (tabs && c == '\t')) = s.cursor := by
    have hNone : s.cursor.rest.takeWhile (fun c => c == ' ' || (tabs && c == '\t')) = [] := by
      cases hRest : s.cursor.rest with
      | nil => rfl
      | cons c rest =>
        have hBlank := (Bool.or_eq_false_iff.1 (hText c (hRest ▸ rfl)).1).1
        obtain ⟨hBlank, hTab⟩ := Bool.or_eq_false_iff.1 hBlank
        exact List.takeWhile_cons_of_neg (by simp [hBlank, hTab])
    rw [Cursor.dropWhile, hNone]
    exact s.cursor.skip_zero
  rw [skipSpace]
  simp only [hMark, Bool.and_false, Bool.false_eq_true, if_false, hSpace, hComment, hBreak]

theorem At.run? (h : s.At depth text tokens) (hText : ∀ c ∈ text.head?, IsSolid c)
    (hSome : text ≠ []) {next : Layout} (hToken : s.fresh.token? = some next)
    (hLess : next.cursor.rest.length < text.length) : s.run? = next.run? := by
  rw [Layout.run?, skipSpace_of_solid (by rwa [h.rest]), h.dropStale?]
  simp only [Option.bind_eq_bind, Option.bind_some, h.fresh.closeBlocks]
  rw [if_neg (by rwa [h.fresh.rest]), hToken, Option.bind_some, dif_pos (by rwa [h.rest])]

theorem At.run?_nil (h : s.At depth [] tokens) : s.run? = some tokens.reverse := by
  rw [Layout.run?, skipSpace_of_solid (by rw [h.rest]; exact nofun), h.dropStale?]
  simp only [Option.bind_eq_bind, Option.bind_some, h.fresh.closeBlocks]
  rw [if_pos h.fresh.rest, finish?, h.fresh.closeBlocks, h.fresh.dropKey?]
  exact congrArg (fun made => some made.reverse) h.made

theorem At.emit (h : s.At depth text tokens) {cursor : Cursor} {rest : List Char}
    (hRest : cursor.rest = rest) (token : Token) (allowed : Bool) :
    ({ s with cursor := cursor, keyAllowed := allowed }.emit token).At depth rest (token :: tokens) where
  rest := hRest
  made := congrArg (token :: ·) h.made
  depth := h.depth
  indents := h.indents
  optional := h.optional

theorem At.withoutKey (h : s.At depth text tokens) : { s with possible := none }.At depth text tokens where
  rest := h.rest
  made := h.made
  depth := h.depth
  indents := h.indents
  optional key hKey := by
    rcases List.mem_cons.1 hKey with hKey | hKey
    · cases hKey
    · exact h.optional key (List.mem_cons_of_mem _ hKey)

theorem At.saveKey? (h : s.At depth text tokens) : ∃ saved, s.saveKey? = some saved ∧
    saved.At depth text tokens ∧ saved.cursor = s.cursor ∧
    (s.keyAllowed = true → saved.possible = some ⟨tokens.length, s.cursor.mark, false⟩) := by
  unfold Layout.saveKey?
  split
  · have hIndent : s.indent = none := by rw [indent, h.indents]; rfl
    rw [h.dropKey?, hIndent]
    refine ⟨_, rfl, ⟨h.rest, h.made, h.depth, h.indents, fun key hKey => ?_⟩, rfl, fun _ => ?_⟩
    · rcases List.mem_cons.1 hKey with hKey | hKey
      · obtain rfl := Option.some.inj hKey
        exact Bool.and_false _
      · exact h.optional key (List.mem_cons_of_mem _ hKey)
    · rw [h.made]
      exact congrArg (fun required => some (PossibleKey.mk _ _ required)) (Bool.and_false _)
  · next hAllowed => exact ⟨s, rfl, h, rfl, fun hTrue => absurd hTrue hAllowed⟩

end At

section Tokens

variable {s : Layout} {text : List Char}

theorem token?_openSequence (h : s.cursor.rest = '[' :: text) :
    s.token? = s.openFlow? .flowSequenceStart := by
  simp [token?, h, Cursor.startsIndicator]

theorem token?_openMapping (h : s.cursor.rest = '\x7b' :: text) :
    s.token? = s.openFlow? .flowMappingStart := by
  simp [token?, h, Cursor.startsIndicator]

theorem token?_closeSequence (h : s.cursor.rest = ']' :: text) :
    s.token? = s.closeFlow? .flowSequenceEnd := by
  simp [token?, h, Cursor.startsIndicator]

theorem token?_closeMapping (h : s.cursor.rest = '\x7d' :: text) :
    s.token? = s.closeFlow? .flowMappingEnd := by
  simp [token?, h, Cursor.startsIndicator]

theorem token?_comma (h : s.cursor.rest = ',' :: text) : s.token? = s.flowEntry? := by
  simp [token?, h, Cursor.startsIndicator]

theorem token?_colon (h : s.cursor.rest = ':' :: text) (hFlow : s.inFlow = true) :
    s.token? = s.value? := by
  simp [token?, h, Cursor.startsIndicator, hFlow]

theorem token?_quote (h : s.cursor.rest = '"' :: text) : s.token? = s.quoted? doubleQuoted? := by
  simp [token?, h, Cursor.startsIndicator]

theorem ne_of_isAlphanum {c d : Char} (hLetter : c.isAlphanum = true) (hOther : d.isAlphanum = false) :
    c ≠ d := by
  rintro rfl
  rw [hLetter] at hOther
  cases hOther

theorem token?_letter {c : Char} (h : s.cursor.rest = c :: text) (hLetter : c.isAlphanum = true) :
    s.token? = s.plain? := by
  have hNot (d : Char) : d.isAlphanum = false → c ≠ d := ne_of_isAlphanum hLetter
  have hStart : startsPlain s.inFlow c text = true := by
    simp [startsPlain, isSpace, isBlank, isBreak, indicators, hNot]
  simp [token?, h, Cursor.startsIndicator, hNot, hStart]

theorem token?_minus {c : Char} (h : s.cursor.rest = '-' :: c :: text)
    (hLetter : c.isAlphanum = true) : s.token? = s.plain? := by
  have hNot (d : Char) : d.isAlphanum = false → c ≠ d := ne_of_isAlphanum hLetter
  have hStart : startsPlain s.inFlow '-' (c :: text) = true := by
    simp [startsPlain, isBlank, hNot]
  simp [token?, h, Cursor.startsIndicator, hNot, startsBlank, isSpace, isBlank, isBreak, hStart]

end Tokens

section Scans

variable {s : Layout} {depth : Nat} {text : List Char} {tokens : List Token}

/-- A bracket or a brace opens a level where a key may start. -/
theorem At.openFlow? (h : s.At depth text tokens) (token : Token) : ∃ next,
    s.openFlow? token = some next ∧ next.At (depth + 1) (text.drop 1) (token :: tokens) ∧
    next.keyAllowed = true := by
  obtain ⟨saved, hSaved, hAt, -, -⟩ := h.saveKey?
  unfold Layout.openFlow?
  rw [hSaved]
  refine ⟨_, rfl, ⟨?_, ?_, ?_, hAt.indents, fun key hKey => ?_⟩, rfl⟩
  · exact (Cursor.rest_skip 1 _).trans (congrArg (List.drop 1) hAt.rest)
  · exact congrArg (token :: ·) hAt.made
  · exact congrArg (· + 1) hAt.depth
  · rcases List.mem_cons.1 hKey with hKey | hKey
    · cases hKey
    · exact hAt.optional key hKey

theorem At.closeFlow? (h : s.At (depth + 1) text tokens) (token : Token) : ∃ next,
    s.closeFlow? token = some next ∧ next.At depth (text.drop 1) (token :: tokens) := by
  obtain ⟨cursor, made, indents, possible, _ | ⟨outerKey, outer⟩, allowed⟩ := s
  · cases h.depth
  · unfold Layout.closeFlow?
    rw [h.dropKey?]
    refine ⟨_, rfl, ⟨?_, ?_, ?_, h.indents, fun key hKey => ?_⟩⟩
    · exact (Cursor.rest_skip 1 _).trans (congrArg (List.drop 1) h.rest)
    · exact congrArg (token :: ·) h.made
    · exact Nat.succ.inj h.depth
    · exact h.optional key (List.mem_cons_of_mem _ hKey)

theorem At.flowEntry? (h : s.At depth text tokens) : ∃ next, s.flowEntry? = some next ∧
    next.At depth (text.drop 1) (.flowEntry :: tokens) ∧ next.keyAllowed = true := by
  unfold Layout.flowEntry?
  rw [h.dropKey?]
  refine ⟨_, rfl, h.withoutKey.emit ?_ .flowEntry true, rfl⟩
  exact (Cursor.rest_skip 1 _).trans (congrArg (List.drop 1) h.rest)

theorem At.quoted? {name : String} {rest : List Char}
    (h : s.At depth (Json.stringChars name ++ rest) tokens) (hName : Json.IsPlain name) : ∃ next,
    s.quoted? doubleQuoted? = some next ∧ next.At depth rest (.scalar name false :: tokens) ∧
    next.cursor = s.cursor.skip (Json.stringChars name).length ∧
    (s.keyAllowed = true → next.possible = some ⟨tokens.length, s.cursor.mark, false⟩) := by
  obtain ⟨saved, hSaved, hAt, hCursor, hKey⟩ := h.saveKey?
  have hInside : (s.cursor.skip 1).rest = List.replicate 0 ' ' ++
      (name.toList.flatMap Json.escaped ++ '"' :: rest) := by
    rw [Cursor.rest_skip, h.rest]
    simp [Json.stringChars]
  have hLength : 1 + (0 + (name.toList.flatMap Json.escaped).length + 1) =
      (Json.stringChars name).length := by
    simp only [Json.stringChars, List.length_append, List.length_cons, List.length_nil]
    omega
  have hColumn : 0 < (s.cursor.skip 1).column := Nat.succ_pos _
  have hRead := doubleQuoted?_escaped hName hColumn hInside
  rw [Cursor.skip_skip, hLength, List.replicate_zero, List.nil_append] at hRead
  unfold Layout.quoted? startsKey?
  rw [hSaved]
  simp only [Option.bind_eq_bind, Option.bind_some, Option.pure_def, allowKey, hCursor, hRead]
  refine ⟨_, rfl, ?_, rfl, hKey⟩
  have hAfter : (s.cursor.skip (Json.stringChars name).length).rest = rest := by
    rw [Cursor.rest_skip, h.rest, List.drop_left]
  rw [String.ofList_toList]
  exact hAt.emit hAfter _ false

theorem At.plain? {word rest : List Char} (h : s.At depth (word ++ rest) tokens)
    (hWord : ∀ c ∈ word, IsWordChar c) (hRest : EndsValue (decide (0 < depth)) rest) : ∃ next,
    s.plain? = some next ∧ next.At depth rest (.scalar (String.ofList word) true :: tokens) := by
  obtain ⟨saved, hSaved, hAt, -, -⟩ := h.saveKey?
  rw [← hAt.inFlow] at hRest
  have hRead := plain?_word ((saved.indent.map (· + 1)).getD 0) hWord hRest hAt.rest
  have hAfter : (saved.cursor.skip word.length).rest = rest := by
    rw [Cursor.rest_skip, hAt.rest, List.drop_left]
  unfold Layout.plain? startsKey?
  rw [hSaved]
  refine ⟨_, ?_, hAt.emit hAfter _ false⟩
  change (Yaml.plain? saved.inFlow ((saved.indent.map (· + 1)).getD 0) saved.cursor).bind _ = _
  rw [hRead]
  rfl

/-- A colon makes a key of the string before it. -/
theorem At.value? {token : Token} (h : s.At depth text (token :: tokens)) (hDepth : 0 < depth)
    {mark : Mark} (hKey : s.possible = some ⟨tokens.length, mark, false⟩) : ∃ next,
    s.value? = some next ∧ next.At depth (text.drop 1) (.value :: token :: .key :: tokens) := by
  have hInsert : s.insert tokens.length .key = { s with tokens := token :: .key :: tokens } := by
    have hLater : (token :: tokens).length - tokens.length = 1 := Nat.add_sub_cancel_left ..
    rw [insert, h.made, hLater]
    rfl
  have hFlow : ∀ made, ({ s with tokens := made } : Layout).inFlow = true := fun made => by
    rw [show ({ s with tokens := made } : Layout).inFlow = s.inFlow from rfl, h.inFlow]
    exact decide_eq_true hDepth
  unfold Layout.value?
  rw [hKey]
  dsimp only
  rw [hInsert, openBlock, hFlow, Bool.not_true, Bool.false_and, if_neg (by decide)]
  refine ⟨_, rfl, ?_⟩
  have hAfter : (s.cursor.skip 1).rest = text.drop 1 := by rw [Cursor.rest_skip, h.rest]
  exact ⟨hAfter, rfl, h.depth, h.indents, h.withoutKey.optional⟩

end Scans

section Runs

variable {s : Layout} {depth : Nat} {rest : List Char} {tokens : List Token}

/-- A string that is short enough is the key of the colon after it. -/
theorem At.run?_key {name : String} (h : s.At depth (Json.stringChars name ++ ':' :: rest) tokens)
    (hDepth : 0 < depth) (hAllowed : s.keyAllowed = true) (hName : Json.IsPlain name)
    (hShort : name.length ≤ 500) : ∃ next : Layout,
    next.At depth rest (.value :: .scalar name false :: .key :: tokens) ∧ s.run? = next.run? := by
  obtain ⟨after, hQuoted, hAfter, hCursor, hKey⟩ := h.fresh.quoted? hName
  have hToken := (token?_quote h.fresh.rest).trans hQuoted
  have hRun := h.run? (by rintro c ⟨⟩; decide) (List.cons_ne_nil _ _) hToken (by
    rw [hAfter.rest, List.length_append]
    exact Nat.lt_add_of_pos_left (Nat.succ_pos _))
  have hIndex : after.cursor.mark.index ≤ s.cursor.mark.index + 1024 := by
    have hBytes := Cursor.byteCount_of_printable fun c => Json.isPrintable_of_mem_stringChars hName
    have hLength := Json.length_stringChars_le hName
    rw [hCursor, Cursor.skip, h.fresh.rest, List.take_left, hBytes]
    exact Nat.add_le_add_left (by omega) _
  have hFresh : after.fresh.possible = some ⟨tokens.length, s.cursor.mark, false⟩ := by
    rw [Layout.fresh, hKey hAllowed]
    refine Option.filter_eq_some_iff.2 ⟨rfl, ?_⟩
    simp only [isFresh, Bool.and_eq_true, beq_iff_eq, decide_eq_true_eq]
    exact ⟨by rw [hCursor]; rfl, hIndex⟩
  obtain ⟨next, hValue, hNext⟩ := hAfter.fresh.value? hDepth hFresh
  have hFlow : after.fresh.inFlow = true := by rw [hAfter.fresh.inFlow]; exact decide_eq_true hDepth
  have hColon := (token?_colon hAfter.fresh.rest hFlow).trans hValue
  refine ⟨next, hNext, hRun.trans (hAfter.run? (by rintro c ⟨⟩; decide) (List.cons_ne_nil _ _) hColon ?_)⟩
  rw [hNext.rest]
  exact Nat.lt_succ_self _

end Runs

end Layout
end ApiLoad.Yaml
