import ApiLoad.Proofs.Text.Utf8

/-!
# Lenient reading of bytes

Bytes that are no text are read as one as well. Where the bytes of a character stand, they are read as that
character. Elsewhere the longest start of a character that stands there is read as U+FFFD, and so is a byte
that starts no character. This says for all bytes which text they are read as, and it is one text only.
-/
set_option autoImplicit false

namespace ApiLoad.Text.Utf8

def IsStart (part : List UInt8) : Prop := ∃ c, part <+: String.utf8EncodeChar c

theorem IsStart.of_prefix {part whole : List UInt8} (h : IsStart whole) (hPart : part <+: whole) :
    IsStart part := by
  obtain ⟨c, hc⟩ := h
  exact ⟨c, hPart.trans hc⟩

theorem spells_of_bytes {c : Char} {first : UInt8} {more : List UInt8}
    (h : String.utf8EncodeChar c = first :: more) : ∃ low high, Spells first low high more c := by
  obtain ⟨first', low, high, more', hSpells⟩ := exists_spells c
  cases h.symm.trans hSpells.bytes
  exact ⟨low, high, hSpells⟩

theorem Continues.of_prefix {low high : UInt8} {part more : List UInt8} (h : Continues low high more)
    (hPart : part <+: more) : Continues low high part := by
  have hMore := continuing_append h []
  rw [← hMore] at hPart
  exact (prefix_continuing_iff.mp hPart).2.2

theorem low_le_high {first low high : UInt8} {count : Nat}
    (h : following? first = some (count, low, high)) : low ≤ high := by
  rw [UInt8.le_iff_toNat_le]
  cases following?_eq_some_iff.mp h with
  | one _ hLow hHigh | two _ _ hLow hHigh => omega
  | three _ _ hLow hHigh | four _ _ hLow hHigh => split at hLow <;> split at hHigh <;> omega

/-- What continues a character can be filled up to any length. -/
theorem exists_continues {count : Nat} {low high : UInt8} {more : List UInt8} (hBounds : low ≤ high)
    (hLength : more.length ≤ count) (hMore : Continues low high more) :
    ∃ full, more <+: full ∧ full.length = count ∧ Continues low high full := by
  induction count generalizing low high more with
  | zero => exact ⟨more, List.prefix_refl more, Nat.le_zero.mp hLength, hMore⟩
  | succ count ih =>
    cases more with
    | nil =>
      have hNone : Continues 0x80 0xBF [] := trivial
      obtain ⟨full, -, hFull, hContinues⟩ := ih (by decide) (Nat.zero_le _) hNone
      refine ⟨low :: full, List.nil_prefix, ?_, ⟨UInt8.le_refl low, hBounds⟩, hContinues⟩
      rw [List.length_cons, hFull]
    | cons b more =>
      obtain ⟨hb, hMore⟩ := hMore
      obtain ⟨full, hPrefix, hFull, hContinues⟩ := ih (by decide) (Nat.le_of_succ_le_succ hLength) hMore
      refine ⟨b :: full, List.cons_prefix_cons.mpr ⟨rfl, hPrefix⟩, ?_, hb, hContinues⟩
      rw [List.length_cons, hFull]

theorem isStart_cons_iff {first : UInt8} {more : List UInt8} : IsStart (first :: more) ↔
    ∃ count low high, following? first = some (count, low, high) ∧ more.length ≤ count ∧
      Continues low high more := by
  constructor
  · rintro ⟨c, hc⟩
    obtain ⟨first', low, high, whole, hSpells⟩ := exists_spells c
    rw [hSpells.bytes, List.cons_prefix_cons] at hc
    obtain ⟨rfl, hMore⟩ := hc
    exact ⟨whole.length, low, high, hSpells.leads, hMore.length_le, hSpells.continues.of_prefix hMore⟩
  · rintro ⟨count, low, high, hFirst, hLength, hMore⟩
    obtain ⟨full, hPrefix, rfl, hFull⟩ := exists_continues (low_le_high hFirst) hLength hMore
    obtain ⟨c, hc⟩ := exists_char_of_continues hFirst hFull
    refine ⟨c, ?_⟩
    rw [hc, List.cons_prefix_cons]
    exact ⟨rfl, hPrefix⟩

/-- Bytes that are read as U+FFFD before others: a byte or a start of a character, where no character
stands and which the next byte does not make longer. -/
structure Broken (part rest : List UInt8) : Prop where
  nonempty : part ≠ []
  start : part.length = 1 ∨ IsStart part
  incomplete : ∀ c, ¬ String.utf8EncodeChar c <+: part ++ rest
  longest : ∀ next more, rest = next :: more → ¬ IsStart (part ++ [next])

/-- The text that bytes are read as. -/
inductive Decodes : List UInt8 → List Char → Prop
  | nil : Decodes [] []
  | character {c : Char} {rest : List UInt8} {text : List Char} (h : Decodes rest text) :
      Decodes (String.utf8EncodeChar c ++ rest) (c :: text)
  | broken {part rest : List UInt8} {text : List Char} (hPart : Broken part rest)
      (h : Decodes rest text) : Decodes (part ++ rest) ('\uFFFD' :: text)

theorem broken_of_none {first : UInt8} (h : following? first = none) (rest : List UInt8) :
    Broken [first] rest where
  nonempty := List.cons_ne_nil first []
  start := .inl rfl
  incomplete := by
    intro c hc
    obtain ⟨first', low, high, more, hSpells⟩ := exists_spells c
    rw [hSpells.bytes, List.singleton_append, List.cons_prefix_cons] at hc
    obtain ⟨rfl, -⟩ := hc
    cases h.symm.trans hSpells.leads
  longest := by
    intro next more _ hStart
    obtain ⟨count, low, high, hFirst, -⟩ := isStart_cons_iff.mp hStart
    cases h.symm.trans hFirst

theorem broken_of_short {first low high : UInt8} {count : Nat} {more rest : List UInt8}
    (hFirst : following? first = some (count, low, high))
    (hMore : continuing count low high (more ++ rest) = more) (hShort : more.length ≠ count) :
    Broken (first :: more) rest := by
  have hContinuing := continuing_bounds count low high (more ++ rest)
  rw [hMore] at hContinuing
  obtain ⟨-, hLength, hContinues⟩ := hContinuing
  refine ⟨List.cons_ne_nil first more, .inr ?_, ?_, ?_⟩
  · exact isStart_cons_iff.mpr ⟨count, low, high, hFirst, hLength, hContinues⟩
  · intro c hc
    obtain ⟨first', low', high', whole, hSpells⟩ := exists_spells c
    rw [hSpells.bytes, List.cons_append, List.cons_prefix_cons] at hc
    obtain ⟨rfl, hWhole⟩ := hc
    cases hFirst.symm.trans hSpells.leads
    have hPart := prefix_continuing_iff.mpr ⟨hWhole, Nat.le_refl _, hSpells.continues⟩
    rw [hMore] at hPart
    exact hShort (Nat.le_antisymm hLength hPart.length_le)
  · rintro next after rfl hStart
    obtain ⟨count', low', high', hFirst', hLonger, hNext⟩ := isStart_cons_iff.mp hStart
    cases hFirst.symm.trans hFirst'
    have hPart := prefix_continuing_iff.mpr ⟨⟨after, List.append_assoc more [next] after⟩, hLonger, hNext⟩
    rw [List.singleton_append, hMore] at hPart
    have := hPart.length_le
    rw [List.length_append, List.length_singleton] at this
    omega

/-- A piece is a character that stands there or one that is broken. -/
theorem piece_cases (first : UInt8) (rest : List UInt8) : ∃ more after, rest = more ++ after ∧
    ((∃ c, String.utf8EncodeChar c = first :: more ∧ piece first rest = (some c, more.length)) ∨
      Broken (first :: more) after ∧ piece first rest = (none, more.length)) := by
  cases hFirst : following? first with
  | none => exact ⟨[], rest, rfl, .inr ⟨broken_of_none hFirst rest, by rw [piece, hFirst]; rfl⟩⟩
  | some found =>
    obtain ⟨count, low, high⟩ := found
    have hContinuing := continuing_bounds count low high rest
    generalize hMore : continuing count low high rest = more at hContinuing
    obtain ⟨⟨after, rfl⟩, -, hContinues⟩ := hContinuing
    refine ⟨more, after, rfl, ?_⟩
    by_cases hLength : more.length = count
    · subst hLength
      obtain ⟨c, hc⟩ := exists_char_of_continues hFirst hContinues
      obtain ⟨low', high', hSpells⟩ := spells_of_bytes hc
      exact .inl ⟨c, hc, piece_of_spells hSpells after⟩
    · refine .inr ⟨broken_of_short hFirst hMore hLength, ?_⟩
      rw [piece, hFirst]
      simp only [hMore, if_neg hLength]

theorem pieces_of_broken {first : UInt8} {more after : List UInt8}
    (h : piece first (more ++ after) = (none, more.length)) :
    pieces (first :: (more ++ after)) = none :: pieces after := by
  rw [pieces, h]
  simp only [List.drop_left]

theorem decodes_pieces (bytes : List UInt8) : Decodes bytes ((pieces bytes).map (·.getD '\uFFFD')) := by
  induction bytes using pieces.induct with
  | case1 =>
    rw [pieces]
    exact .nil
  | case2 first rest char? used hUsed ih =>
    obtain ⟨more, after, rfl, ⟨c, hc, hPiece⟩ | ⟨hBroken, hPiece⟩⟩ := piece_cases first rest
    · cases hUsed.symm.trans hPiece
      rw [List.drop_left] at ih
      rw [← List.cons_append, ← hc, pieces_utf8EncodeChar]
      exact .character ih
    · cases hUsed.symm.trans hPiece
      rw [List.drop_left] at ih
      rw [pieces_of_broken hPiece]
      exact .broken hBroken ih

theorem utf8EncodeChar_append_inj {c d : Char} {rest other : List UInt8}
    (h : String.utf8EncodeChar c ++ rest = String.utf8EncodeChar d ++ other) : c = d ∧ rest = other := by
  have hPieces := congrArg pieces h
  rw [pieces_utf8EncodeChar, pieces_utf8EncodeChar, List.cons.injEq, Option.some_inj] at hPieces
  obtain ⟨rfl, -⟩ := hPieces
  exact ⟨rfl, List.append_cancel_left h⟩

theorem Broken.length_le {part rest other after : List UInt8} (h : Broken part rest)
    (hOther : Broken other after) (hEq : part ++ rest = other ++ after) : other.length ≤ part.length := by
  by_contra hLonger
  have hPrefix : part <+: other := List.prefix_of_prefix_length_le ⟨rest, hEq⟩ ⟨after, rfl⟩ (by omega)
  obtain ⟨more, rfl⟩ := hPrefix
  cases more with
  | nil => simp at hLonger
  | cons next more =>
    have hPart := List.length_pos_iff.mpr h.nonempty
    have hStart := hOther.start.resolve_left (by simp only [List.length_append, List.length_cons]; omega)
    rw [List.append_assoc, List.append_cancel_left_eq] at hEq
    exact h.longest next (more ++ after) hEq (hStart.of_prefix ⟨more, by simp⟩)

theorem Broken.unique {part rest other after : List UInt8} (h : Broken part rest)
    (hOther : Broken other after) (hEq : part ++ rest = other ++ after) : rest = after := by
  have hLength := Nat.le_antisymm (hOther.length_le h hEq.symm) (h.length_le hOther hEq)
  exact (List.append_inj hEq hLength).2

theorem Decodes.cases_bytes {bytes : List UInt8} {text : List Char} (h : Decodes bytes text) :
    bytes = [] ∧ text = [] ∨
    (∃ c rest more, bytes = String.utf8EncodeChar c ++ rest ∧ text = c :: more ∧ Decodes rest more) ∨
    ∃ part rest more, bytes = part ++ rest ∧ Broken part rest ∧ text = '\uFFFD' :: more ∧
      Decodes rest more := by
  cases h with
  | nil => exact .inl ⟨rfl, rfl⟩
  | character h => exact .inr (.inl ⟨_, _, _, rfl, rfl, h⟩)
  | broken hPart h => exact .inr (.inr ⟨_, _, _, rfl, hPart, rfl, h⟩)

theorem utf8EncodeChar_ne_nil (c : Char) : String.utf8EncodeChar c ≠ [] := by
  obtain ⟨first, low, high, more, hSpells⟩ := exists_spells c
  rw [hSpells.bytes]
  exact List.cons_ne_nil first more

theorem Decodes.unique {bytes : List UInt8} {text other : List Char} (h : Decodes bytes text)
    (hOther : Decodes bytes other) : text = other := by
  induction h generalizing other with
  | nil =>
    obtain ⟨-, rfl⟩ | ⟨c, rest, more, hEq, -⟩ | ⟨part, rest, more, hEq, hPart, -⟩ := hOther.cases_bytes
    · rfl
    · exact absurd (List.append_eq_nil_iff.mp hEq.symm).1 (utf8EncodeChar_ne_nil c)
    · exact absurd (List.append_eq_nil_iff.mp hEq.symm).1 hPart.nonempty
  | @character c rest text _ ih =>
    obtain ⟨hEq, -⟩ | ⟨d, after, more, hEq, rfl, hMore⟩ | ⟨part, after, more, hEq, hPart, -⟩ :=
      hOther.cases_bytes
    · exact absurd (List.append_eq_nil_iff.mp hEq).1 (utf8EncodeChar_ne_nil c)
    · obtain ⟨rfl, rfl⟩ := utf8EncodeChar_append_inj hEq
      rw [ih hMore]
    · exact absurd ⟨rest, hEq⟩ (hPart.incomplete c)
  | @broken part rest text hPart _ ih =>
    obtain ⟨hEq, -⟩ | ⟨d, after, more, hEq, -⟩ | ⟨part', after, more, hEq, hPart', rfl, hMore⟩ :=
      hOther.cases_bytes
    · exact absurd (List.append_eq_nil_iff.mp hEq).1 hPart.nonempty
    · exact absurd ⟨after, hEq.symm⟩ (hPart.incomplete d)
    · obtain rfl := hPart.unique hPart' hEq
      rw [ih hMore]

theorem decodeLenient_eq_iff {bytes : List UInt8} {text : String} :
    decodeLenient bytes = text ↔ Decodes bytes text.toList := by
  rw [decodeLenient, ← String.toList_inj, String.toList_ofList]
  constructor
  · intro h
    rw [← h]
    exact decodes_pieces bytes
  · exact (decodes_pieces bytes).unique

theorem pieces_eq_map_some_iff {bytes : List UInt8} {text : List Char} :
    pieces bytes = text.map some ↔ bytes = text.flatMap String.utf8EncodeChar := by
  constructor
  · intro h
    induction text generalizing bytes with
    | nil =>
      cases bytes with
      | nil => rfl
      | cons first rest => simp [pieces] at h
    | cons c text ih =>
      cases bytes with
      | nil => simp [pieces] at h
      | cons first rest =>
        obtain ⟨more, after, rfl, ⟨d, hd, -⟩ | ⟨-, hPiece⟩⟩ := piece_cases first rest
        · rw [← List.cons_append, ← hd, pieces_utf8EncodeChar, List.map_cons, List.cons.injEq,
            Option.some_inj] at h
          obtain ⟨rfl, hRest⟩ := h
          rw [← List.cons_append, ← hd, List.flatMap_cons, ih hRest]
        · rw [pieces_of_broken hPiece, List.map_cons, List.cons.injEq] at h
          cases h.1
  · rintro rfl
    exact pieces_flatMap text

theorem decode?_eq_some_iff {bytes : List UInt8} {text : String} :
    decode? bytes = some text ↔ bytes = text.toUTF8.data.toList := by
  rw [toList_toUTF8, ← pieces_eq_map_some_iff, decode?, Option.map_eq_some_iff]
  constructor
  · rintro ⟨found, hFound, rfl⟩
    rw [String.toList_ofList]
    exact mapM_id_eq_some_iff.mp hFound
  · intro h
    exact ⟨text.toList, mapM_id_eq_some_iff.mpr h, String.ofList_toList⟩

end ApiLoad.Text.Utf8
