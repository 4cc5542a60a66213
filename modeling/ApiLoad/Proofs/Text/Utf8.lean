import ApiLoad.Text.Utf8
import Mathlib.Data.List.Basic

/-!
# The bytes of a text

The bytes of a character are a first byte and those that continue it, as many as the first byte says and
within the bounds that it sets, and all such bytes are those of a character. So the bytes of a text are read
back as that text, strictly as well as leniently, and no other bytes are read strictly.
-/
set_option autoImplicit false

namespace ApiLoad.Text.Utf8

/-- Bytes that continue a character, the first of them within bounds of its own. -/
def Continues (low high : UInt8) : List UInt8 → Prop
  | [] => True
  | b :: rest => (low ≤ b ∧ b ≤ high) ∧ Continues 0x80 0xBF rest

/-- What continues a character is the longest start of the bytes that can. -/
theorem prefix_continuing_iff {count : Nat} {low high : UInt8} {part bytes : List UInt8} :
    part <+: continuing count low high bytes ↔
      part <+: bytes ∧ part.length ≤ count ∧ Continues low high part := by
  induction count generalizing low high part bytes with
  | zero =>
    rw [continuing.eq_2 _ _ _ _ (by simp), List.prefix_nil]
    constructor
    · rintro rfl
      exact ⟨List.nil_prefix, Nat.le_refl 0, trivial⟩
    · rintro ⟨-, hLength, -⟩
      exact List.length_eq_zero_iff.mp (Nat.le_zero.mp hLength)
  | succ count ih =>
    cases part with
    | nil => simp [Continues]
    | cons b part =>
      cases bytes with
      | nil => simp [continuing]
      | cons next bytes =>
        rw [continuing]
        split
        · rename_i hBounds
          simp only [List.cons_prefix_cons, ih, List.length_cons, Nat.add_le_add_iff_right, Continues]
          constructor
          · rintro ⟨rfl, hPart, hLength, hRest⟩
            exact ⟨⟨rfl, hPart⟩, hLength, hBounds, hRest⟩
          · rintro ⟨⟨rfl, hPart⟩, hLength, -, hRest⟩
            exact ⟨rfl, hPart, hLength, hRest⟩
        · rename_i hBounds
          simp only [List.prefix_nil, reduceCtorEq, false_iff, not_and, List.cons_prefix_cons, Continues]
          rintro ⟨rfl, -⟩ - hInside
          exact absurd hInside hBounds

theorem continuing_bounds (count : Nat) (low high : UInt8) (bytes : List UInt8) :
    continuing count low high bytes <+: bytes ∧ (continuing count low high bytes).length ≤ count ∧
      Continues low high (continuing count low high bytes) :=
  prefix_continuing_iff.mp (List.prefix_refl _)

theorem continuing_append {low high : UInt8} {more : List UInt8} (h : Continues low high more)
    (rest : List UInt8) : continuing more.length low high (more ++ rest) = more := by
  have hPrefix : more <+: continuing more.length low high (more ++ rest) :=
    prefix_continuing_iff.mpr ⟨List.prefix_append .., Nat.le_refl _, h⟩
  exact (hPrefix.eq_of_length_le (continuing_bounds ..).2.1).symm

/-- The first bytes of characters of each length. The bounds rule out short forms, surrogates and numbers
beyond those of characters. -/
inductive Leads (first low high : Nat) : Nat → Prop
  | one (h : first < 0x80) (hLow : low = 0x80) (hHigh : high = 0xBF) : Leads first low high 0
  | two (hLeast : 0xC2 ≤ first) (hMost : first < 0xE0) (hLow : low = 0x80) (hHigh : high = 0xBF) :
      Leads first low high 1
  | three (hLeast : 0xE0 ≤ first) (hMost : first < 0xF0)
      (hLow : low = if first = 0xE0 then 0xA0 else 0x80)
      (hHigh : high = if first = 0xED then 0x9F else 0xBF) : Leads first low high 2
  | four (hLeast : 0xF0 ≤ first) (hMost : first < 0xF5)
      (hLow : low = if first = 0xF0 then 0x90 else 0x80)
      (hHigh : high = if first = 0xF4 then 0x8F else 0xBF) : Leads first low high 3

theorem following?_eq (first : UInt8) : following? first =
    if first.toNat < 0x80 then some (0, 0x80, 0xBF)
    else if first.toNat < 0xC2 then none
    else if first.toNat < 0xE0 then some (1, 0x80, 0xBF)
    else if first.toNat < 0xF0 then
      some (2, if first.toNat = 0xE0 then 0xA0 else 0x80, if first.toNat = 0xED then 0x9F else 0xBF)
    else if first.toNat < 0xF5 then
      some (3, if first.toNat = 0xF0 then 0x90 else 0x80, if first.toNat = 0xF4 then 0x8F else 0xBF)
    else none := by
  have hAll : ∀ n : Fin 256, following? (UInt8.ofNat n.val) =
      if n.val < 0x80 then some (0, 0x80, 0xBF)
      else if n.val < 0xC2 then none
      else if n.val < 0xE0 then some (1, 0x80, 0xBF)
      else if n.val < 0xF0 then
        some (2, if n.val = 0xE0 then 0xA0 else 0x80, if n.val = 0xED then 0x9F else 0xBF)
      else if n.val < 0xF5 then
        some (3, if n.val = 0xF0 then 0x90 else 0x80, if n.val = 0xF4 then 0x8F else 0xBF)
      else none := by decide +kernel
  have h := hAll ⟨first.toNat, first.toNat_lt⟩
  rwa [UInt8.ofNat_toNat] at h

theorem following?_eq_some_iff {first low high : UInt8} {count : Nat} :
    following? first = some (count, low, high) ↔ Leads first.toNat low.toNat high.toNat count := by
  rw [following?_eq]
  constructor
  · intro h
    split at h
    · cases h
      exact .one ‹_› rfl rfl
    split at h
    · cases h
    split at h
    · cases h
      exact .two (Nat.le_of_not_lt ‹_›) ‹_› rfl rfl
    split at h
    · cases h
      exact .three (Nat.le_of_not_lt ‹_›) ‹_› (by split <;> rfl) (by split <;> rfl)
    split at h
    · cases h
      exact .four (Nat.le_of_not_lt ‹_›) ‹_› (by split <;> rfl) (by split <;> rfl)
    · cases h
  · intro h
    have hByte {b : UInt8} {n : Nat} (hb : b.toNat = n) : b = UInt8.ofNat n := by
      rw [← hb, UInt8.ofNat_toNat]
    cases h with
    | one h hLow hHigh =>
      rw [if_pos h, hByte hLow, hByte hHigh]
      rfl
    | two hLeast hMost hLow hHigh =>
      rw [if_neg (by omega), if_neg (by omega), if_pos hMost, hByte hLow, hByte hHigh]
      rfl
    | three hLeast hMost hLow hHigh =>
      rw [if_neg (by omega), if_neg (by omega), if_neg (by omega), if_pos hMost, hByte hLow, hByte hHigh]
      split <;> split <;> rfl
    | four hLeast hMost hLow hHigh =>
      rw [if_neg (by omega), if_neg (by omega), if_neg (by omega), if_neg (by omega), if_pos hMost,
        hByte hLow, hByte hHigh]
      split <;> split <;> rfl

/-- A byte that is not the first of its character, with the low six bits of a number. -/
def tail (n : Nat) : UInt8 := UInt8.ofNat (n % 64 + 128)

theorem toNat_tail (n : Nat) : (tail n).toNat = n % 64 + 128 := by
  rw [tail, UInt8.toNat_ofNat', Nat.mod_eq_of_lt (by omega)]

theorem tail_eq {n : Nat} {b : UInt8} (hLeast : 0x80 ≤ b.toNat) (hMost : b.toNat ≤ 0xBF)
    (h : n % 64 = b.toNat % 64) : tail n = b := by
  rw [← UInt8.toNat_inj, toNat_tail]
  omega

theorem continues_cons_iff {low high b : UInt8} {rest : List UInt8} :
    Continues low high (b :: rest) ↔
      (low.toNat ≤ b.toNat ∧ b.toNat ≤ high.toNat) ∧ Continues 0x80 0xBF rest := by
  rw [Continues, UInt8.le_iff_toNat_le, UInt8.le_iff_toNat_le]

theorem continues_tail {low high : UInt8} {n : Nat} {rest : List UInt8}
    (hLow : low.toNat ≤ n % 64 + 128) (hHigh : n % 64 + 128 ≤ high.toNat)
    (h : Continues 0x80 0xBF rest) : Continues low high (tail n :: rest) := by
  rw [continues_cons_iff, toNat_tail]
  exact ⟨⟨hLow, hHigh⟩, h⟩

theorem continues_next {n : Nat} {rest : List UInt8} (h : Continues 0x80 0xBF rest) :
    Continues 0x80 0xBF (tail n :: rest) :=
  continues_tail (Nat.le_add_left ..) (by change _ ≤ 191; omega) h

/-- A first byte and what continues it are the bytes of a character. -/
structure Spells (first low high : UInt8) (more : List UInt8) (c : Char) : Prop where
  bytes : String.utf8EncodeChar c = first :: more
  leads : following? first = some (more.length, low, high)
  continues : Continues low high more
  code : codePoint more.length first more = c.toNat

section Characters

variable {c : Char}

theorem utf8EncodeChar_one (h : c.toNat ≤ 0x7F) :
    String.utf8EncodeChar c = [UInt8.ofNat c.toNat] := if_pos h

theorem utf8EncodeChar_two (hLeast : 0x7F < c.toNat) (hMost : c.toNat ≤ 0x7FF) :
    String.utf8EncodeChar c = [UInt8.ofNat (c.toNat / 64 % 0x20 + 0xC0), tail c.toNat] :=
  (if_neg (Nat.not_le.mpr hLeast)).trans (if_pos hMost)

theorem utf8EncodeChar_three (hLeast : 0x7FF < c.toNat) (hMost : c.toNat ≤ 0xFFFF) :
    String.utf8EncodeChar c =
      [UInt8.ofNat (c.toNat / 4096 % 0x10 + 0xE0), tail (c.toNat / 64), tail c.toNat] :=
  (if_neg (by change ¬ c.toNat ≤ _; omega)).trans ((if_neg (Nat.not_le.mpr hLeast)).trans (if_pos hMost))

theorem utf8EncodeChar_four (hLeast : 0xFFFF < c.toNat) :
    String.utf8EncodeChar c = [UInt8.ofNat (c.toNat / 262144 % 0x08 + 0xF0), tail (c.toNat / 4096),
      tail (c.toNat / 64), tail c.toNat] :=
  (if_neg (by change ¬ c.toNat ≤ _; omega)).trans
    ((if_neg (by change ¬ c.toNat ≤ _; omega)).trans (if_neg (Nat.not_le.mpr hLeast)))

theorem exists_byte {n : Nat} (h : n < 256) : ∃ b : UInt8, b.toNat = n :=
  ⟨UInt8.ofNat n, by rw [UInt8.toNat_ofNat', Nat.mod_eq_of_lt h]⟩

theorem exists_spells_one (h : c.toNat ≤ 0x7F) : ∃ first low high more, Spells first low high more c := by
  have hFirst : (UInt8.ofNat c.toNat).toNat = c.toNat := by
    rw [UInt8.toNat_ofNat', Nat.mod_eq_of_lt (by omega)]
  refine ⟨_, 0x80, 0xBF, [], utf8EncodeChar_one h, ?_, trivial, hFirst⟩
  exact following?_eq_some_iff.mpr (.one (by omega) rfl rfl)

theorem exists_spells_two (hLeast : 0x7F < c.toNat) (hMost : c.toNat ≤ 0x7FF) :
    ∃ first low high more, Spells first low high more c := by
  refine ⟨_, 0x80, 0xBF, [tail c.toNat], utf8EncodeChar_two hLeast hMost, ?_, continues_next trivial, ?_⟩
  · refine following?_eq_some_iff.mpr (.two ?_ ?_ rfl rfl) <;> rw [UInt8.toNat_ofNat'] <;> omega
  · change 64 * ((UInt8.ofNat _).toNat % 32) + (tail c.toNat).toNat % 64 = c.toNat
    rw [toNat_tail, UInt8.toNat_ofNat']
    omega

theorem exists_spells_three (hLeast : 0x7FF < c.toNat) (hMost : c.toNat ≤ 0xFFFF) :
    ∃ first low high more, Spells first low high more c := by
  have hScalar : c.toNat < 0xD800 ∨ 0xDFFF < c.toNat ∧ c.toNat < 0x110000 := c.valid
  have hFirst : (UInt8.ofNat (c.toNat / 4096 % 0x10 + 0xE0)).toNat = c.toNat / 4096 + 0xE0 := by
    rw [UInt8.toNat_ofNat']
    omega
  obtain ⟨low, hLow⟩ := exists_byte (n := if c.toNat / 4096 + 0xE0 = 0xE0 then 0xA0 else 0x80)
    (by split <;> decide)
  obtain ⟨high, hHigh⟩ := exists_byte (n := if c.toNat / 4096 + 0xE0 = 0xED then 0x9F else 0xBF)
    (by split <;> decide)
  refine ⟨_, low, high, [tail (c.toNat / 64), tail c.toNat], utf8EncodeChar_three hLeast hMost,
    following?_eq_some_iff.mpr ?_, continues_tail ?_ ?_ (continues_next trivial), ?_⟩
  · rw [hFirst]
    exact .three (by omega) (by omega) hLow hHigh
  · rw [hLow]
    split <;> omega
  · rw [hHigh]
    split <;> omega
  · change 64 * (64 * ((UInt8.ofNat _).toNat % 16) + (tail (c.toNat / 64)).toNat % 64) +
      (tail c.toNat).toNat % 64 = c.toNat
    rw [toNat_tail, toNat_tail, hFirst]
    omega

theorem exists_spells_four (hLeast : 0xFFFF < c.toNat) :
    ∃ first low high more, Spells first low high more c := by
  have hScalar : c.toNat < 0xD800 ∨ 0xDFFF < c.toNat ∧ c.toNat < 0x110000 := c.valid
  have hFirst : (UInt8.ofNat (c.toNat / 262144 % 0x08 + 0xF0)).toNat = c.toNat / 262144 + 0xF0 := by
    rw [UInt8.toNat_ofNat']
    omega
  obtain ⟨low, hLow⟩ := exists_byte (n := if c.toNat / 262144 + 0xF0 = 0xF0 then 0x90 else 0x80)
    (by split <;> decide)
  obtain ⟨high, hHigh⟩ := exists_byte (n := if c.toNat / 262144 + 0xF0 = 0xF4 then 0x8F else 0xBF)
    (by split <;> decide)
  refine ⟨_, low, high, [tail (c.toNat / 4096), tail (c.toNat / 64), tail c.toNat],
    utf8EncodeChar_four hLeast, following?_eq_some_iff.mpr ?_,
    continues_tail ?_ ?_ (continues_next (continues_next trivial)), ?_⟩
  · rw [hFirst]
    exact .four (by omega) (by omega) hLow hHigh
  · rw [hLow]
    split <;> omega
  · rw [hHigh]
    split <;> omega
  · change 64 * (64 * (64 * ((UInt8.ofNat _).toNat % 8) + (tail (c.toNat / 4096)).toNat % 64) +
      (tail (c.toNat / 64)).toNat % 64) + (tail c.toNat).toNat % 64 = c.toNat
    rw [toNat_tail, toNat_tail, toNat_tail, hFirst]
    omega

/-- The bytes of every character are a first byte and what continues it. -/
theorem exists_spells (c : Char) : ∃ first low high more, Spells first low high more c := by
  rcases Nat.lt_or_ge 0x7F c.toNat with hOne | hOne
  · rcases Nat.lt_or_ge 0x7FF c.toNat with hTwo | hTwo
    · rcases Nat.lt_or_ge 0xFFFF c.toNat with hThree | hThree
      · exact exists_spells_four hThree
      · exact exists_spells_three hTwo hThree
    · exact exists_spells_two hOne hTwo
  · exact exists_spells_one hOne

end Characters

theorem exists_char {n : Nat} (h : n < 0xD800 ∨ 0xDFFF < n ∧ n < 0x110000) : ∃ c : Char, c.toNat = n :=
  ⟨Char.ofNatAux n h, rfl⟩

section Bytes

variable {first b d e : UInt8}

theorem exists_char_one (h : first.toNat < 0x80) : ∃ c, String.utf8EncodeChar c = [first] := by
  obtain ⟨c, hc⟩ := exists_char (n := first.toNat) (by omega)
  refine ⟨c, ?_⟩
  rw [utf8EncodeChar_one (by omega), hc, UInt8.ofNat_toNat]

theorem exists_char_two (hLeast : 0xC2 ≤ first.toNat) (hMost : first.toNat < 0xE0)
    (hb : 0x80 ≤ b.toNat ∧ b.toNat ≤ 0xBF) : ∃ c, String.utf8EncodeChar c = [first, b] := by
  obtain ⟨c, hc⟩ := exists_char (n := 64 * (first.toNat % 32) + b.toNat % 64) (by omega)
  refine ⟨c, ?_⟩
  rw [utf8EncodeChar_two (by omega) (by omega), tail_eq (b := b) hb.1 hb.2 (by omega)]
  congr 1
  rw [← UInt8.toNat_inj, UInt8.toNat_ofNat']
  omega

theorem exists_char_three (hLeast : 0xE0 ≤ first.toNat) (hMost : first.toNat < 0xF0)
    (hb : 0x80 ≤ b.toNat ∧ b.toNat ≤ 0xBF) (hShort : first.toNat = 0xE0 → 0xA0 ≤ b.toNat)
    (hSurrogate : first.toNat = 0xED → b.toNat ≤ 0x9F) (hd : 0x80 ≤ d.toNat ∧ d.toNat ≤ 0xBF) :
    ∃ c, String.utf8EncodeChar c = [first, b, d] := by
  obtain ⟨c, hc⟩ := exists_char
    (n := 64 * (64 * (first.toNat % 16) + b.toNat % 64) + d.toNat % 64) (by omega)
  refine ⟨c, ?_⟩
  rw [utf8EncodeChar_three (by omega) (by omega), tail_eq (b := b) hb.1 hb.2 (by omega),
    tail_eq (b := d) hd.1 hd.2 (by omega)]
  congr 1
  rw [← UInt8.toNat_inj, UInt8.toNat_ofNat']
  omega

theorem exists_char_four (hLeast : 0xF0 ≤ first.toNat) (hMost : first.toNat < 0xF5)
    (hb : 0x80 ≤ b.toNat ∧ b.toNat ≤ 0xBF) (hShort : first.toNat = 0xF0 → 0x90 ≤ b.toNat)
    (hBeyond : first.toNat = 0xF4 → b.toNat ≤ 0x8F) (hd : 0x80 ≤ d.toNat ∧ d.toNat ≤ 0xBF)
    (he : 0x80 ≤ e.toNat ∧ e.toNat ≤ 0xBF) : ∃ c, String.utf8EncodeChar c = [first, b, d, e] := by
  obtain ⟨c, hc⟩ := exists_char
    (n := 64 * (64 * (64 * (first.toNat % 8) + b.toNat % 64) + d.toNat % 64) + e.toNat % 64) (by omega)
  refine ⟨c, ?_⟩
  rw [utf8EncodeChar_four (by omega), tail_eq (b := b) hb.1 hb.2 (by omega),
    tail_eq (b := d) hd.1 hd.2 (by omega), tail_eq (b := e) he.1 he.2 (by omega)]
  congr 1
  rw [← UInt8.toNat_inj, UInt8.toNat_ofNat']
  omega

/-- A first byte and what continues it are the bytes of a character, if there is enough of it. -/
theorem exists_char_of_continues {low high : UInt8} {more : List UInt8}
    (hFirst : following? first = some (more.length, low, high)) (hMore : Continues low high more) :
    ∃ c, String.utf8EncodeChar c = first :: more := by
  have hLeads := following?_eq_some_iff.mp hFirst
  generalize hCount : more.length = count at hLeads
  cases hLeads with
  | one h =>
    obtain rfl := List.length_eq_zero_iff.mp hCount
    exact exists_char_one h
  | two hLeast hMost hLow hHigh =>
    obtain ⟨b, rfl⟩ := List.length_eq_one_iff.mp hCount
    obtain ⟨hb, -⟩ := continues_cons_iff.mp hMore
    rw [hLow, hHigh] at hb
    exact exists_char_two hLeast hMost hb
  | three hLeast hMost hLow hHigh =>
    obtain ⟨b, d, rfl⟩ := List.length_eq_two.mp hCount
    obtain ⟨hb, hRest⟩ := continues_cons_iff.mp hMore
    obtain ⟨hd, -⟩ := continues_cons_iff.mp hRest
    rw [hLow, hHigh] at hb
    refine exists_char_three hLeast hMost ?_ ?_ ?_ hd <;> split at hb <;> split at hb <;> omega
  | four hLeast hMost hLow hHigh =>
    obtain ⟨b, d, e, rfl⟩ := List.length_eq_three.mp hCount
    obtain ⟨hb, hRest⟩ := continues_cons_iff.mp hMore
    obtain ⟨hd, hRest⟩ := continues_cons_iff.mp hRest
    obtain ⟨he, -⟩ := continues_cons_iff.mp hRest
    rw [hLow, hHigh] at hb
    refine exists_char_four hLeast hMost ?_ ?_ ?_ hd he <;> split at hb <;> split at hb <;> omega

end Bytes

theorem piece_of_spells {first low high : UInt8} {more : List UInt8} {c : Char}
    (h : Spells first low high more c) (rest : List UInt8) :
    piece first (more ++ rest) = (some c, more.length) := by
  rw [piece, h.leads]
  simp only [continuing_append h.continues, h.code, Char.ofNat_toNat, if_true]

theorem pieces_utf8EncodeChar (c : Char) (rest : List UInt8) :
    pieces (String.utf8EncodeChar c ++ rest) = some c :: pieces rest := by
  obtain ⟨first, low, high, more, h⟩ := exists_spells c
  rw [h.bytes, List.cons_append, pieces, piece_of_spells h]
  simp only [List.drop_left]

theorem pieces_flatMap (text : List Char) :
    pieces (text.flatMap String.utf8EncodeChar) = text.map some := by
  induction text with
  | nil => rw [List.flatMap_nil, pieces, List.map_nil]
  | cons c rest ih => rw [List.flatMap_cons, pieces_utf8EncodeChar, ih, List.map_cons]

theorem toList_toUTF8 (text : String) :
    text.toUTF8.data.toList = text.toList.flatMap String.utf8EncodeChar := by
  conv_lhs => rw [← @String.ofList_toList text]
  rw [String.toUTF8_eq_toByteArray, String.toByteArray_ofList, List.utf8Encode]
  simp

theorem mapM_id_eq_some_iff {α : Type} {items : List (Option α)} {found : List α} :
    items.mapM id = some found ↔ items = found.map some := by
  induction items generalizing found with
  | nil => cases found <;> simp
  | cons item items ih =>
    cases found with
    | nil => cases item <;> simp [Option.bind_eq_some_iff]
    | cons first found => cases item <;> simp [Option.bind_eq_some_iff, ih, and_comm]

theorem decode?_toUTF8 (text : String) : decode? text.toUTF8.data.toList = some text := by
  rw [decode?, toList_toUTF8, pieces_flatMap, mapM_id_eq_some_iff.mpr rfl, Option.map_some,
    String.ofList_toList]

theorem decodeLenient_toUTF8 (text : String) : decodeLenient text.toUTF8.data.toList = text := by
  have hAll : (text.toList.map some).map (·.getD '\uFFFD') = text.toList := by
    rw [List.map_map]
    exact List.map_id _
  rw [decodeLenient, toList_toUTF8, pieces_flatMap, hAll, String.ofList_toList]

end ApiLoad.Text.Utf8
