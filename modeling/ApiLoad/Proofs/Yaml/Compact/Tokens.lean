import ApiLoad.Proofs.Yaml.Compact.Scan

/-!
# The tokens of a value

The compact text of a portable value gives one token for each bracket, brace, comma, scalar and colon,
and one more before each name of a field. The induction is on the value, for every text after it.
-/
set_option autoImplicit false

namespace ApiLoad

open Yaml (Token Layout EndsValue IsWordChar)
open Text (IsPrintable)

namespace Json

mutual

def tokens : Json → List Token
  | .null => [.scalar "null" true]
  | .bool b => [.scalar (if b then "true" else "false") true]
  | .number n => [.scalar (numberText n) true]
  | .string text => [.scalar text false]
  | .array items => .flowSequenceStart :: tokensOfItems items
  | .object fields => .flowMappingStart :: tokensOfFields fields

def tokensOfItems : List Json → List Token
  | [] => [.flowSequenceEnd]
  | [item] => tokens item ++ [.flowSequenceEnd]
  | item :: rest => tokens item ++ .flowEntry :: tokensOfItems rest

def tokensOfFields : List (String × Json) → List Token
  | [] => [.flowMappingEnd]
  | [(name, value)] => .key :: .scalar name false :: .value :: (tokens value ++ [.flowMappingEnd])
  | (name, value) :: rest =>
    .key :: .scalar name false :: .value :: (tokens value ++ .flowEntry :: tokensOfFields rest)

end

/-- A text that is read as one plain scalar. -/
structure IsWord (word : List Char) : Prop where
  chars : ∀ c ∈ word, IsWordChar c
  start : ∃ c rest, c.isAlphanum = true ∧ (word = c :: rest ∨ word = '-' :: c :: rest)

theorem isWordChar_of_isDigit {c : Char} (h : c.isDigit = true) : IsWordChar c := by
  have hAll : ∀ d : Fin 10, IsWordChar (Decimal.digitChar d) := by decide
  obtain ⟨d, hd, rfl⟩ := Decimal.exists_digitChar h
  exact hAll ⟨d, hd⟩

theorem isWord_digitsOf (n : Nat) : IsWord (Decimal.digitsOf n) ∧ IsWord ('-' :: Decimal.digitsOf n) := by
  have hChars : ∀ c ∈ Decimal.digitsOf n, IsWordChar c := fun c hc =>
    isWordChar_of_isDigit (Decimal.isDigit_of_mem_digitsOf hc)
  obtain ⟨first, rest, hFirst, -⟩ := Decimal.exists_digitsOf_eq n
  have hDigit : first.isDigit = true :=
    Decimal.isDigit_of_mem_digitsOf (hFirst ▸ List.mem_cons_self)
  have hStart : first.isAlphanum = true := by simp [Char.isAlphanum, hDigit]
  refine ⟨⟨hChars, first, rest, hStart, .inl hFirst⟩, ⟨fun c hc => ?_, first, rest, hStart, .inr ?_⟩⟩
  · rcases List.mem_cons.1 hc with rfl | hc
    · decide
    · exact hChars c hc
  · rw [hFirst]

theorem isWord_intText (n : Int) : IsWord (intText n).toList := by
  unfold intText
  split
  · simpa [natText] using (isWord_digitsOf n.natAbs).2
  · simpa [natText] using (isWord_digitsOf n.natAbs).1

end Json

namespace Yaml.Layout

section

variable {s : Layout} {depth : Nat} {c : Char} {rest : List Char} {made : List Token}

theorem At.run?_one (h : s.At depth (c :: rest) made) (hSolid : IsSolid c) {next : Layout}
    (hToken : s.fresh.token? = some next) (hRest : next.cursor.rest = rest) : s.run? = next.run? := by
  refine h.run? (fun d hd => Option.some.inj hd ▸ hSolid) (List.cons_ne_nil _ _) hToken ?_
  rw [hRest]
  exact Nat.lt_succ_self _

theorem At.run?_comma (h : s.At depth (',' :: rest) made) : ∃ next : Layout,
    next.At depth rest (.flowEntry :: made) ∧ next.keyAllowed = true ∧ s.run? = next.run? := by
  obtain ⟨next, hEntry, hNext, hAllowed⟩ := h.fresh.flowEntry?
  exact ⟨next, hNext, hAllowed,
    h.run?_one (by decide) ((token?_comma h.fresh.rest).trans hEntry) hNext.rest⟩

theorem At.run?_openSequence (h : s.At depth ('[' :: rest) made) : ∃ next : Layout,
    next.At (depth + 1) rest (.flowSequenceStart :: made) ∧ s.run? = next.run? := by
  obtain ⟨next, hOpen, hNext, -⟩ := h.fresh.openFlow? .flowSequenceStart
  exact ⟨next, hNext, h.run?_one (by decide) ((token?_openSequence h.fresh.rest).trans hOpen) hNext.rest⟩

theorem At.run?_openMapping (h : s.At depth ('\x7b' :: rest) made) : ∃ next : Layout,
    next.At (depth + 1) rest (.flowMappingStart :: made) ∧ next.keyAllowed = true ∧
    s.run? = next.run? := by
  obtain ⟨next, hOpen, hNext, hAllowed⟩ := h.fresh.openFlow? .flowMappingStart
  exact ⟨next, hNext, hAllowed,
    h.run?_one (by decide) ((token?_openMapping h.fresh.rest).trans hOpen) hNext.rest⟩

theorem At.run?_closeSequence (h : s.At (depth + 1) (']' :: rest) made) : ∃ next : Layout,
    next.At depth rest (.flowSequenceEnd :: made) ∧ s.run? = next.run? := by
  obtain ⟨next, hClose, hNext⟩ := h.fresh.closeFlow? .flowSequenceEnd
  exact ⟨next, hNext,
    h.run?_one (by decide) ((token?_closeSequence h.fresh.rest).trans hClose) hNext.rest⟩

theorem At.run?_closeMapping (h : s.At (depth + 1) ('\x7d' :: rest) made) : ∃ next : Layout,
    next.At depth rest (.flowMappingEnd :: made) ∧ s.run? = next.run? := by
  obtain ⟨next, hClose, hNext⟩ := h.fresh.closeFlow? .flowMappingEnd
  exact ⟨next, hNext,
    h.run?_one (by decide) ((token?_closeMapping h.fresh.rest).trans hClose) hNext.rest⟩

theorem At.run?_string {text : String} (h : s.At depth (Json.stringChars text ++ rest) made)
    (hText : Json.IsPlain text) : ∃ next : Layout,
    next.At depth rest (.scalar text false :: made) ∧ s.run? = next.run? := by
  obtain ⟨next, hQuoted, hNext, -, -⟩ := h.fresh.quoted? hText
  refine ⟨next, hNext, h.run? (by rintro c ⟨⟩; decide) (List.cons_ne_nil _ _)
    ((token?_quote h.fresh.rest).trans hQuoted) ?_⟩
  rw [hNext.rest, List.length_append]
  exact Nat.lt_add_of_pos_left (Nat.succ_pos _)

theorem isSolid_of_isAlphanum {c : Char} (hLetter : c.isAlphanum = true) (hWord : IsWordChar c) :
    IsSolid c :=
  ⟨hWord.1, ne_of_isAlphanum hLetter rfl, ne_of_isAlphanum hLetter rfl⟩

theorem At.run?_word {word : List Char} (h : s.At depth (word ++ rest) made) (hWord : Json.IsWord word)
    (hRest : EndsValue (decide (0 < depth)) rest) : ∃ next : Layout,
    next.At depth rest (.scalar (String.ofList word) true :: made) ∧ s.run? = next.run? := by
  obtain ⟨next, hPlain, hNext⟩ := h.fresh.plain? hWord.chars hRest
  obtain ⟨c, tail, hLetter, rfl | rfl⟩ := hWord.start
  · refine ⟨next, hNext, h.run? (fun d hd => ?_) (List.cons_ne_nil _ _)
      ((token?_letter h.fresh.rest hLetter).trans hPlain) ?_⟩
    · obtain rfl := Option.some.inj hd
      exact isSolid_of_isAlphanum hLetter (hWord.chars _ List.mem_cons_self)
    · rw [hNext.rest, List.length_append]
      exact Nat.lt_add_of_pos_left (Nat.succ_pos _)
  · refine ⟨next, hNext, h.run? (by rintro d ⟨⟩; decide) (List.cons_ne_nil _ _)
      ((token?_minus h.fresh.rest hLetter).trans hPlain) ?_⟩
    rw [hNext.rest, List.length_append]
    exact Nat.lt_add_of_pos_left (Nat.succ_pos _)

end

mutual

theorem run?_chars : ∀ (value : Json), value.Portable → ∀ {s : Layout} {depth : Nat}
    {rest : List Char} {made : List Token}, s.At depth (value.chars ++ rest) made →
    EndsValue (decide (0 < depth)) rest → ∃ next : Layout,
      next.At depth rest (value.tokens.reverse ++ made) ∧ s.run? = next.run?
  | .null, _, _, _, _, _, h, hRest =>
    h.run?_word ⟨List.all_iff_forall_prop.1 rfl, 'n', _, rfl, .inl rfl⟩ hRest
  | .bool true, _, _, _, _, _, h, hRest =>
    h.run?_word ⟨List.all_iff_forall_prop.1 rfl, 't', _, rfl, .inl rfl⟩ hRest
  | .bool false, _, _, _, _, _, h, hRest =>
    h.run?_word ⟨List.all_iff_forall_prop.1 rfl, 'f', _, rfl, .inl rfl⟩ hRest
  | .number (.integer n), _, _, _, _, _, h, hRest => by
    rw [Json.chars, Json.numberText] at h
    obtain ⟨next, hNext, hRun⟩ := h.run?_word (Json.isWord_intText n) hRest
    rw [String.ofList_toList] at hNext
    exact ⟨next, hNext, hRun⟩
  | .number (.float _), hPortable, _, _, _, _, _, _ => nomatch hPortable
  | .string text, .string hText, _, _, _, _, h, _ => h.run?_string hText
  | .array items, .array hItems, _, _, _, _, h, _ => by
    obtain ⟨inside, hInside, hOpen⟩ := h.run?_openSequence
    obtain ⟨next, hNext, hRun⟩ := run?_charsOfItems items hItems hInside
    refine ⟨next, ?_, hOpen.trans hRun⟩
    rw [Json.tokens, List.reverse_cons, List.append_assoc]
    exact hNext
  | .object fields, .object _ hNames hFields, _, _, _, _, h, _ => by
    obtain ⟨inside, hInside, hAllowed, hOpen⟩ := h.run?_openMapping
    obtain ⟨next, hNext, hRun⟩ := run?_charsOfFields fields hNames hFields hInside hAllowed
    refine ⟨next, ?_, hOpen.trans hRun⟩
    rw [Json.tokens, List.reverse_cons, List.append_assoc]
    exact hNext

theorem run?_charsOfItems : ∀ (items : List Json), (∀ item ∈ items, item.Portable) →
    ∀ {s : Layout} {depth : Nat} {rest : List Char} {made : List Token},
    s.At (depth + 1) (Json.charsOfItems items ++ rest) made → ∃ next : Layout,
      next.At depth rest ((Json.tokensOfItems items).reverse ++ made) ∧ s.run? = next.run?
  | [], _, _, _, _, _, h => h.run?_closeSequence
  | [item], hItems, _, _, _, _, h => by
    rw [Json.charsOfItems, List.append_assoc] at h
    obtain ⟨after, hAfter, hItem⟩ := run?_chars item (hItems item List.mem_cons_self) h
      (.inr ⟨decide_eq_true (Nat.succ_pos _), ']', _, rfl, by decide⟩)
    obtain ⟨next, hNext, hClose⟩ := hAfter.run?_closeSequence
    refine ⟨next, ?_, hItem.trans hClose⟩
    rw [Json.tokensOfItems, List.reverse_append, List.append_assoc]
    exact hNext
  | item :: second :: others, hItems, _, _, _, _, h => by
    rw [Json.charsOfItems, List.append_assoc] at h
    · obtain ⟨after, hAfter, hItem⟩ := run?_chars item (hItems item List.mem_cons_self) h
        (.inr ⟨decide_eq_true (Nat.succ_pos _), ',', _, rfl, by decide⟩)
      obtain ⟨between, hBetween, -, hComma⟩ := hAfter.run?_comma
      obtain ⟨next, hNext, hRest⟩ := run?_charsOfItems (second :: others)
        (fun later hLater => hItems later (List.mem_cons_of_mem item hLater)) hBetween
      refine ⟨next, ?_, hItem.trans (hComma.trans hRest)⟩
      rw [Json.tokensOfItems, List.reverse_append, List.reverse_cons, List.append_assoc,
        List.append_assoc]
      · exact hNext
      · exact List.cons_ne_nil _ _
    · exact List.cons_ne_nil _ _

theorem run?_charsOfFields : ∀ (fields : List (String × Json)),
    (∀ field ∈ fields, Json.IsPlain field.1 ∧ field.1.length ≤ 500) →
    (∀ field ∈ fields, field.2.Portable) →
    ∀ {s : Layout} {depth : Nat} {rest : List Char} {made : List Token},
    s.At (depth + 1) (Json.charsOfFields fields ++ rest) made → s.keyAllowed = true →
    ∃ next : Layout, next.At depth rest ((Json.tokensOfFields fields).reverse ++ made) ∧
      s.run? = next.run?
  | [], _, _, _, _, _, _, h, _ => h.run?_closeMapping
  | [(name, value)], hNames, hFields, _, _, _, _, h, hAllowed => by
    rw [Json.charsOfFields, List.append_assoc, List.cons_append, List.append_assoc] at h
    obtain ⟨hName, hShort⟩ := hNames _ List.mem_cons_self
    obtain ⟨before, hBefore, hKey⟩ := h.run?_key (Nat.succ_pos _) hAllowed hName hShort
    obtain ⟨after, hAfter, hValue⟩ := run?_chars value (hFields _ List.mem_cons_self) hBefore
      (.inr ⟨decide_eq_true (Nat.succ_pos _), '\x7d', _, rfl, by decide⟩)
    obtain ⟨next, hNext, hClose⟩ := hAfter.run?_closeMapping
    refine ⟨next, ?_, hKey.trans (hValue.trans hClose)⟩
    simpa [Json.tokensOfFields] using hNext
  | (name, value) :: second :: others, hNames, hFields, _, _, _, _, h, hAllowed => by
    rw [Json.charsOfFields, List.append_assoc, List.cons_append, List.append_assoc] at h
    · obtain ⟨hName, hShort⟩ := hNames _ List.mem_cons_self
      obtain ⟨before, hBefore, hKey⟩ := h.run?_key (Nat.succ_pos _) hAllowed hName hShort
      obtain ⟨after, hAfter, hValue⟩ := run?_chars value (hFields _ List.mem_cons_self) hBefore
        (.inr ⟨decide_eq_true (Nat.succ_pos _), ',', _, rfl, by decide⟩)
      obtain ⟨between, hBetween, hAgain, hComma⟩ := hAfter.run?_comma
      obtain ⟨next, hNext, hRest⟩ := run?_charsOfFields (second :: others)
        (fun later hLater => hNames later (List.mem_cons_of_mem _ hLater))
        (fun later hLater => hFields later (List.mem_cons_of_mem _ hLater)) hBetween hAgain
      refine ⟨next, ?_, hKey.trans (hValue.trans (hComma.trans hRest))⟩
      simpa [Json.tokensOfFields] using hNext
    · exact List.cons_ne_nil _ _

end

theorem at_start (text : List Char) : (start text).At 0 text [] where
  rest := rfl
  made := rfl
  depth := rfl
  indents := rfl
  optional key hKey := by
    obtain hKey := List.mem_singleton.1 hKey
    cases hKey

end Yaml.Layout

namespace Json

/-- The compact text of a portable value has the tokens of the value. -/
theorem Portable.tokens_eq {value : Json} (h : value.Portable) :
    Token.ofText? value.chars = some value.tokens := by
  have hStart : (Layout.start value.chars).At 0 (value.chars ++ []) [] := by
    rw [List.append_nil]
    exact Layout.at_start value.chars
  obtain ⟨next, hNext, hRun⟩ := Layout.run?_chars value h hStart (.inl rfl)
  have hAllowed : value.chars.all Yaml.isAllowed = true := by
    refine List.all_eq_true.2 fun c hc => ?_
    obtain ⟨hLeast, hGreatest⟩ := h.isPrintable c hc
    simp [Yaml.isAllowed, hLeast, hGreatest]
  unfold Token.ofText?
  rw [if_pos hAllowed, hRun, hNext.run?_nil, List.append_nil, List.reverse_reverse]

end Json
end ApiLoad
