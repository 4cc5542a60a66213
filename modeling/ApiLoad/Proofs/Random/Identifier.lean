import ApiLoad.Proofs.Text.Hex

/-!
# Identifiers and the bytes that they are drawn from

Six bits of an identifier are marks, four for the version and two for the variant, and every other bit is
as it was drawn. So two identifiers are equal exactly if their bytes were drawn alike but for the bits under
the marks. No mark stands in the first four bytes.
-/
set_option autoImplicit false

namespace ApiLoad.Draw

/-- The bits that marks stand on: the upper four of byte six and the upper two of byte eight. -/
def IsMark (place bit : Nat) : Prop := place = 6 ∧ 4 ≤ bit ∨ place = 8 ∧ 6 ≤ bit

instance (place bit : Nat) : Decidable (IsMark place bit) := inferInstanceAs (Decidable (_ ∨ _))

/-- The version is four, and the variant is the first bit of its two. -/
def markAt (place bit : Nat) : Bool := decide (place = 6 ∧ bit = 6 ∨ place = 8 ∧ bit = 7)

def bitAt (bytes : List UInt8) (place bit : Nat) : Bool := (bytes.getD place 0).toNat.testBit bit

/-- Sixteen bytes agree with others on all bits but those under the marks. -/
def AgreeUnmarked (a b : List UInt8) : Prop :=
  ∀ place < 16, ∀ bit < 8, ¬ IsMark place bit → bitAt a place bit = bitAt b place bit

def IsMarked (bytes : List UInt8) : Prop :=
  ∀ place < 16, ∀ bit < 8, IsMark place bit → bitAt bytes place bit = markAt place bit

/-- Digits in lower case spell sixteen bytes with marks, as they were drawn but for those. -/
structure Encodes (drawn : List UInt8) (digits : List Char) : Prop where
  lower : ∀ c ∈ digits, c ∈ Text.Hex.lower
  reads : ∃ bytes, Text.Hex.toBytes? digits = some bytes ∧ bytes.length = 16 ∧
    AgreeUnmarked bytes drawn ∧ IsMarked bytes

theorem AgreeUnmarked.symm {a b : List UInt8} (h : AgreeUnmarked a b) : AgreeUnmarked b a :=
  fun place hPlace bit hBit hMark => (h place hPlace bit hBit hMark).symm

theorem AgreeUnmarked.trans {a b c : List UInt8} (h : AgreeUnmarked a b) (hNext : AgreeUnmarked b c) :
    AgreeUnmarked a c :=
  fun place hPlace bit hBit hMark =>
    (h place hPlace bit hBit hMark).trans (hNext place hPlace bit hBit hMark)

section Bits

theorem byte_ext {a b : UInt8} (h : ∀ bit < 8, a.toNat.testBit bit = b.toNat.testBit bit) : a = b := by
  apply UInt8.toNat_inj.mp
  apply Nat.eq_of_testBit_eq
  intro bit
  rcases Nat.lt_or_ge bit 8 with hBit | hBit
  · exact h bit hBit
  · have hPow : 2 ^ 8 ≤ 2 ^ bit := Nat.pow_le_pow_right (by decide) hBit
    rw [Nat.testBit_lt_two_pow (Nat.lt_of_lt_of_le a.toNat_lt hPow),
      Nat.testBit_lt_two_pow (Nat.lt_of_lt_of_le b.toNat_lt hPow)]

theorem bytes_ext {a b : List UInt8} (ha : a.length = 16) (hb : b.length = 16)
    (h : ∀ place < 16, ∀ bit < 8, bitAt a place bit = bitAt b place bit) : a = b := by
  apply List.ext_getElem (ha.trans hb.symm)
  intro place hPlace hOther
  apply byte_ext
  intro bit hBit
  have hBits := h place (ha ▸ hPlace) bit hBit
  rwa [bitAt, bitAt, ← List.getElem_eq_getD (h := hPlace), ← List.getElem_eq_getD (h := hOther)] at hBits

def stamped (place : Nat) (b : UInt8) : UInt8 :=
  if place = 6 then b &&& 0x0f ||| 0x40 else if place = 8 then b &&& 0x3f ||| 0x80 else b

theorem getD_stamp {bytes : List UInt8} {place : Nat} (hPlace : place < bytes.length) :
    (stamp bytes).getD place 0 = stamped place (bytes.getD place 0) := by
  have hByte : bytes[place]? = some bytes[place] := List.getElem?_eq_getElem hPlace
  simp only [stamp, stamped, List.getD_eq_getElem?_getD, List.getElem?_modify, hByte]
  by_cases hVersion : place = 6
  · subst hVersion
    rfl
  · by_cases hVariant : place = 8
    · subst hVariant
      rfl
    · simp [hVersion, hVariant, Ne.symm hVersion, Ne.symm hVariant]

theorem testBit_stamped (place : Nat) {bit : Nat} (hBit : bit < 8) (b : UInt8) :
    (stamped place b).toNat.testBit bit =
      if IsMark place bit then markAt place bit else b.toNat.testBit bit := by
  have hVersion : ∀ bit < 8, Nat.testBit 0x0f bit = decide (¬ IsMark 6 bit) ∧
      Nat.testBit 0x40 bit = (decide (IsMark 6 bit) && markAt 6 bit) := by decide
  have hVariant : ∀ bit < 8, Nat.testBit 0x3f bit = decide (¬ IsMark 8 bit) ∧
      Nat.testBit 0x80 bit = (decide (IsMark 8 bit) && markAt 8 bit) := by decide
  unfold stamped
  split
  · rename_i hPlace
    subst hPlace
    have hBits : (b &&& 0x0f ||| 0x40).toNat = b.toNat &&& 0x0f ||| 0x40 := rfl
    rw [hBits, Nat.testBit_or, Nat.testBit_and, (hVersion bit hBit).1, (hVersion bit hBit).2]
    by_cases hMark : IsMark 6 bit <;> simp [hMark]
  · split
    · rename_i hPlace
      subst hPlace
      have hBits : (b &&& 0x3f ||| 0x80).toNat = b.toNat &&& 0x3f ||| 0x80 := rfl
      rw [hBits, Nat.testBit_or, Nat.testBit_and, (hVariant bit hBit).1, (hVariant bit hBit).2]
      by_cases hMark : IsMark 8 bit <;> simp [hMark]
    · rename_i hFirst hSecond
      have hMark : ¬ IsMark place bit := by simp [IsMark, hFirst, hSecond]
      rw [if_neg hMark]

end Bits

section Stamp

variable {a b bytes drawn : List UInt8}

theorem length_stamp (bytes : List UInt8) : (stamp bytes).length = bytes.length := by simp [stamp]

theorem bitAt_stamp (hLength : drawn.length = 16) {place bit : Nat} (hPlace : place < 16)
    (hBit : bit < 8) : bitAt (stamp drawn) place bit =
      if IsMark place bit then markAt place bit else bitAt drawn place bit := by
  rw [bitAt, getD_stamp (hLength ▸ hPlace), testBit_stamped place hBit, bitAt]

theorem agreeUnmarked_stamp (hLength : drawn.length = 16) : AgreeUnmarked (stamp drawn) drawn := by
  intro place hPlace bit hBit hMark
  rw [bitAt_stamp hLength hPlace hBit, if_neg hMark]

theorem eq_stamp_iff (hBytes : bytes.length = 16) (hDrawn : drawn.length = 16) :
    bytes = stamp drawn ↔ AgreeUnmarked bytes drawn ∧ IsMarked bytes := by
  constructor
  · rintro rfl
    refine ⟨agreeUnmarked_stamp hDrawn, ?_⟩
    intro place hPlace bit hBit hMark
    rw [bitAt_stamp hDrawn hPlace hBit, if_pos hMark]
  · rintro ⟨hAgree, hMarked⟩
    apply bytes_ext hBytes ((length_stamp drawn).trans hDrawn)
    intro place hPlace bit hBit
    rw [bitAt_stamp hDrawn hPlace hBit]
    split
    · exact hMarked place hPlace bit hBit ‹_›
    · exact hAgree place hPlace bit hBit ‹_›

theorem stamp_eq_iff (ha : a.length = 16) (hb : b.length = 16) :
    stamp a = stamp b ↔ AgreeUnmarked a b := by
  rw [eq_stamp_iff ((length_stamp a).trans ha) hb]
  constructor
  · rintro ⟨hAgree, -⟩
    exact (agreeUnmarked_stamp ha).symm.trans hAgree
  · intro hAgree
    refine ⟨(agreeUnmarked_stamp ha).trans hAgree, ?_⟩
    exact ((eq_stamp_iff ((length_stamp a).trans ha) ha).mp rfl).2

theorem take_stamp (bytes : List UInt8) : (stamp bytes).take 4 = bytes.take 4 := by
  have hLength : (bytes.take 4).length ≤ 4 := List.length_take_le 4 bytes
  rw [stamp, List.take_modify, List.take_modify, List.modify_eq_self (by omega : _ ≤ 6),
    List.modify_eq_self (by omega : _ ≤ 8)]

theorem encodes_iff (hDrawn : drawn.length = 16) {digits : List Char} :
    Encodes drawn digits ↔ digits = Text.Hex.ofBytes (stamp drawn) := by
  constructor
  · rintro ⟨hLower, bytes, hReads, hLength, hStamp⟩
    rw [(Text.Hex.toBytes?_eq_some_iff hLower).mp hReads, (eq_stamp_iff hLength hDrawn).mpr hStamp]
  · rintro rfl
    have hLength := (length_stamp drawn).trans hDrawn
    exact ⟨fun c => Text.Hex.mem_lower_of_mem_ofBytes, stamp drawn, Text.Hex.toBytes?_ofBytes _, hLength,
      (eq_stamp_iff hLength hDrawn).mp rfl⟩

end Stamp

end ApiLoad.Draw
