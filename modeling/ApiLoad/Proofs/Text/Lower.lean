import ApiLoad.Text.Lower
import Mathlib.Data.List.Forall2
import Mathlib.Data.List.Infix

/-!
# Words in lower-case texts

A word of small letters of ASCII that does not end with the dotted one occurs in the lower-case form of
a text exactly where the text spells it, in either case. Only the form of a dotted capital has two
characters, and its dot ends every word. Of the other characters only the Kelvin sign becomes a letter.
-/
set_option autoImplicit false

namespace ApiLoad.Text

theorem toNat_toLower (c : Char) :
    c.toLower.toNat = if 65 ≤ c.toNat ∧ c.toNat ≤ 90 then c.toNat + 32 else c.toNat := by
  unfold Char.toLower
  by_cases h : 65 ≤ c.toNat ∧ c.toNat ≤ 90
  · rw [dif_pos (by simpa [UInt32.le_iff_toNat_le] using h), if_pos h]
    have := h.2
    simp only [Char.toNat, UInt32.toNat_add] at *
    simp
    omega
  · rw [dif_neg (by simpa [UInt32.le_iff_toNat_le] using h), if_neg h]

theorem toLower_eq_iff {c lower upper : Char} (hLower : 97 ≤ lower.toNat ∧ lower.toNat ≤ 122)
    (hUpper : upper.toNat + 32 = lower.toNat) : c.toLower = lower ↔ c = lower ∨ c = upper := by
  rw [← Char.toNat_inj, ← Char.toNat_inj, ← Char.toNat_inj, toNat_toLower]
  split <;> omega

def kelvin : Char := '\u212A'

def dotted : Char := '\u0130'

/-- A character in the case of small letters, the Kelvin sign as a letter. -/
def letterOf (c : Char) : Char := if c = kelvin then 'k' else c.toLower

def IsSmall (c : Char) : Prop := 97 ≤ c.toNat ∧ c.toNat ≤ 122

/-- The character is the letter in either case, or the Kelvin sign in the place of `k`. -/
def Writes (letter c : Char) : Prop := c.toLower = letter ∨ letter = 'k' ∧ c = kelvin

def Spells (word part : List Char) : Prop := List.Forall₂ Writes word part

theorem isAlpha_iff (c : Char) :
    c.isAlpha = true ↔ 65 ≤ c.toNat ∧ c.toNat ≤ 90 ∨ 97 ≤ c.toNat ∧ c.toNat ≤ 122 := by
  have hEq : c.isAlpha = (decide (65 ≤ c.val ∧ c.val ≤ 90) ||
    decide (97 ≤ c.val) && decide (c.val ≤ 122)) := rfl
  simp [hEq, UInt32.le_iff_toNat_le]

theorem isSmall_letterOf {c : Char} (h : IsSmall (letterOf c)) : c.isAlpha = true ∨ c = kelvin := by
  by_cases hKelvin : c = kelvin
  · exact .inr hKelvin
  · rw [letterOf, if_neg hKelvin, IsSmall, toNat_toLower] at h
    rw [isAlpha_iff]
    split at h <;> omega

theorem letterOf_toLower (c : Char) : letterOf c.toLower = letterOf c := by
  by_cases hKelvin : c = kelvin
  · subst hKelvin
    rfl
  · have hOther : c.toLower ≠ kelvin := by
      have hSign : kelvin.toNat = 0x212A := rfl
      rw [← Char.toNat_inj] at hKelvin
      rw [ne_eq, ← Char.toNat_inj, toNat_toLower]
      split <;> omega
    have hTwice : c.toLower.toLower = c.toLower := by
      rw [← Char.toNat_inj, toNat_toLower c.toLower, if_neg]
      rw [toNat_toLower]
      split <;> omega
    rw [letterOf, letterOf, if_neg hOther, if_neg hKelvin, hTwice]

theorem letterOf_of_high {c : Char} (hHigh : 0x80 ≤ c.toNat) (hKelvin : c ≠ kelvin) :
    letterOf c = c := by
  rw [letterOf, if_neg hKelvin, ← Char.toNat_inj, toNat_toLower, if_neg (by omega)]

theorem isSmall_ne {x c : Char} (h : IsSmall x) (hc : 0x80 ≤ c.toNat ∨ c.toNat = 0) : x ≠ c := by
  rintro rfl
  have := h.1
  have := h.2
  omega

theorem letterOf_eq_iff {letter c : Char} (h : IsSmall letter) :
    letterOf c = letter ↔ Writes letter c := by
  by_cases hKelvin : c = kelvin
  · subst hKelvin
    have hOther : kelvin.toLower ≠ letter := (isSmall_ne h (.inl (by decide))).symm
    rw [letterOf, if_pos rfl, Writes, or_iff_right hOther, and_iff_left rfl, eq_comm]
  · rw [letterOf, if_neg hKelvin, Writes, or_iff_left (fun h => hKelvin h.2)]

theorem spells_iff {word : List Char} (h : ∀ x ∈ word, IsSmall x) (part : List Char) :
    Spells word part ↔ part.map letterOf = word := by
  induction word generalizing part with
  | nil => rw [Spells, List.forall₂_nil_left_iff, List.map_eq_nil_iff]
  | cons letter word ih =>
    cases part with
    | nil => exact iff_of_false nofun nofun
    | cons c rest =>
      have hRest := ih (fun x hx => h x (List.mem_cons_of_mem letter hx)) rest
      rw [Spells] at hRest ⊢
      rw [List.forall₂_cons, List.map_cons, List.cons.injEq, hRest,
        letterOf_eq_iff (h letter List.mem_cons_self)]

section Table

theorem lowerShifts_high : ∀ shift ∈ lowerShifts,
    0x80 ≤ shift.2.2 ∨ shift = (kelvin.toNat, kelvin.toNat, 'k'.toNat) := by decide +kernel

/-- A form in the table is beyond ASCII, but for that of the Kelvin sign. -/
theorem lowerCode?_high {code form : Nat} (hCode : 0x80 ≤ code) (h : lowerCode? code = some form) :
    0x80 ≤ form ∨ code = kelvin.toNat := by
  unfold lowerCode? at h
  split at h
  · cases h
    omega
  · obtain ⟨⟨first, last, target⟩, hFind, rfl⟩ := Option.map_eq_some_iff.1 h
    have hRange := List.find?_some hFind
    rw [Bool.and_eq_true, decide_eq_true_eq, decide_eq_true_eq] at hRange
    rcases lowerShifts_high _ (List.mem_of_find?_eq_some hFind) with hHigh | hKelvin
    · exact .inl (Nat.le_add_right_of_le hHigh)
    · cases hKelvin
      exact .inr (Nat.le_antisymm hRange.2 hRange.1)

theorem lowerCode?_kelvin : lowerCode? kelvin.toNat = some 'k'.toNat := by decide +kernel

end Table

theorem toNat_ofNat_eq (n : Nat) : (Char.ofNat n).toNat = n ∨ (Char.ofNat n).toNat = 0 := by
  by_cases h : n.isValidChar
  · rw [Char.ofNat, dif_pos h]
    exact .inl rfl
  · rw [Char.ofNat, dif_neg h]
    exact .inr rfl

/-- Every character but the dotted capital has a form of one character. -/
theorem exists_lowerChar_eq {c : Char} (passed rest : List Char) (hDotted : c ≠ dotted) :
    ∃ form, lowerChar passed rest c = [form] ∧ ∀ x, IsSmall x → (x = form ↔ x = letterOf c) := by
  by_cases hLow : c.toNat < 0x80
  · have hKelvin : c ≠ kelvin := by
      rintro rfl
      exact absurd hLow (by decide)
    exact ⟨c.toLower, if_pos hLow, fun x _ => by rw [letterOf, if_neg hKelvin]⟩
  have hHigh : 0x80 ≤ c.toNat := Nat.le_of_not_lt hLow
  have hForm : lowerChar passed rest c =
      if c = 'Σ' then [lowerSigma passed rest] else [((lowerCode? c.toNat).map Char.ofNat).getD c] :=
    (if_neg hLow).trans (if_neg hDotted)
  by_cases hKelvin : c = kelvin
  · refine ⟨'k', hForm.trans ?_, fun x _ => by rw [letterOf, if_pos hKelvin]⟩
    rw [hKelvin, if_neg (by decide), lowerCode?_kelvin]
    rfl
  -- What is neither becomes something beyond ASCII, or a character that no small letter is.
  suffices ∃ form, lowerChar passed rest c = [form] ∧ (0x80 ≤ form.toNat ∨ form.toNat = 0) by
    obtain ⟨form, hEq, hForm⟩ := this
    refine ⟨form, hEq, fun x hx => iff_of_false (isSmall_ne hx hForm) ?_⟩
    rw [letterOf_of_high hHigh hKelvin]
    exact isSmall_ne hx (.inl hHigh)
  rw [hForm]
  split
  · refine ⟨_, rfl, .inl ?_⟩
    unfold lowerSigma
    split <;> decide
  · refine ⟨_, rfl, ?_⟩
    cases hCode : lowerCode? c.toNat with
    | none => exact .inl hHigh
    | some form =>
      have hHigh : 0x80 ≤ form := (lowerCode?_high hHigh hCode).resolve_right fun h =>
        hKelvin (Char.toNat_inj.1 h)
      have := toNat_ofNat_eq form
      simp only [Option.map_some, Option.getD_some]
      omega

theorem lowerChar_dotted (passed rest : List Char) :
    lowerChar passed rest dotted = ['i', '\u0307'] := rfl

/-- Small letters of which the last is not the dotted one. -/
structure IsWord (word : List Char) : Prop where
  small : ∀ x ∈ word, IsSmall x
  last : word.getLast? ≠ some 'i'

theorem IsWord.tail {x : Char} {word : List Char} (h : IsWord (x :: word)) : IsWord word where
  small y hy := h.small y (List.mem_cons_of_mem x hy)
  last := by
    cases word with
    | nil => exact nofun
    | cons y rest => exact List.getLast?_cons_cons ▸ h.last

theorem IsWord.not_prefix {word text : List Char} {c : Char} (h : IsWord word) (hWord : word ≠ [])
    (hc : 0x80 ≤ c.toNat) : ¬word <+: c :: text := by
  intro hPrefix
  obtain ⟨x, rest, rfl⟩ := List.exists_cons_of_ne_nil hWord
  exact isSmall_ne (h.small x List.mem_cons_self) (.inl hc) (List.cons_prefix_cons.1 hPrefix).1

/-- The dot is between the letter and what follows, and no word ends with the letter. -/
theorem IsWord.not_prefix_dotted {word text : List Char} (h : IsWord word) (hWord : word ≠ []) :
    ¬word <+: 'i' :: '\u0307' :: text := by
  intro hPrefix
  obtain ⟨x, rest, rfl⟩ := List.exists_cons_of_ne_nil hWord
  obtain ⟨rfl, hRest⟩ := List.cons_prefix_cons.1 hPrefix
  refine h.tail.not_prefix (fun hNil => ?_) (by decide) hRest
  subst hNil
  exact h.last rfl

theorem IsWord.prefix_lowerAfter {word : List Char} (h : IsWord word) (passed text : List Char) :
    word <+: lowerAfter passed text ↔ word <+: text.map letterOf := by
  induction text generalizing word passed with
  | nil => exact Iff.rfl
  | cons c rest ih =>
    cases word with
    | nil => exact iff_of_true List.nil_prefix List.nil_prefix
    | cons x word =>
      by_cases hDotted : c = dotted
      · subst hDotted
        exact iff_of_false (h.not_prefix_dotted (List.cons_ne_nil _ _))
          (h.not_prefix (List.cons_ne_nil _ _) (by decide))
      · obtain ⟨form, hForm, hLetter⟩ := exists_lowerChar_eq passed rest hDotted
        rw [lowerAfter, hForm, List.singleton_append, List.map_cons, List.cons_prefix_cons,
          List.cons_prefix_cons, hLetter x (h.small x List.mem_cons_self), ih h.tail]

theorem IsWord.infix_lowerAfter {word : List Char} (h : IsWord word) (passed text : List Char) :
    word <:+: lowerAfter passed text ↔ word <:+: text.map letterOf := by
  by_cases hWord : word = []
  · subst hWord
    exact iff_of_true List.nil_infix List.nil_infix
  induction text generalizing passed with
  | nil => exact Iff.rfl
  | cons c rest ih =>
    have hPrefix := h.prefix_lowerAfter passed (c :: rest)
    rw [List.map_cons, List.infix_cons_iff, ← List.map_cons, ← hPrefix, ← ih (c :: passed), lowerAfter]
    by_cases hDotted : c = dotted
    · subst hDotted
      simp only [lowerChar_dotted, List.cons_append, List.nil_append, List.infix_cons_iff,
        h.not_prefix_dotted hWord, h.not_prefix hWord (by decide : 0x80 ≤ '\u0307'.toNat), false_or]
    · obtain ⟨form, hForm, -⟩ := exists_lowerChar_eq passed rest hDotted
      rw [hForm, List.singleton_append, List.infix_cons_iff]

end ApiLoad.Text
