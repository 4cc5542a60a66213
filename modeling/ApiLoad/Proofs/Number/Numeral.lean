import ApiLoad.Number.Decimal
import Mathlib.Data.List.Induction

/-!
# Numerals of naturals

The digits of a natural spell it in base ten, with no zero before others, and no other such digits do.
So different naturals have different texts.
-/
set_option autoImplicit false

namespace ApiLoad

namespace Decimal

theorem digitsOf_of_lt {n : Nat} (h : n < 10) : digitsOf n = [digitChar n] := by
  rw [digitsOf, if_pos h]

theorem digitsOf_of_le {n : Nat} (h : 10 ≤ n) :
    digitsOf n = digitsOf (n / 10) ++ [digitChar (n % 10)] := by
  rw [digitsOf, if_neg (Nat.not_lt.mpr h)]

/-- What holds of one digit, and of a numeral with one digit more, holds of every numeral. -/
theorem digitsOf_induction {P : Nat → List Char → Prop} (hOne : ∀ d < 10, P d [digitChar d])
    (hMore : ∀ n d digits, 0 < n → d < 10 → P n digits → P (10 * n + d) (digits ++ [digitChar d]))
    (n : Nat) : P n (digitsOf n) := by
  induction n using Nat.strongRecOn with
  | ind n ih =>
    rcases Nat.lt_or_ge n 10 with h | h
    · rw [digitsOf_of_lt h]
      exact hOne n h
    · rw [digitsOf_of_le h]
      have hStep := hMore (n / 10) (n % 10) _ (by omega) (Nat.mod_lt n (by decide))
        (ih (n / 10) (by omega))
      rwa [Nat.div_add_mod] at hStep

theorem toNat_digitChar {d : Nat} (h : d < 10) : (digitChar d).toNat = 48 + d := by
  have hAll : ∀ d : Fin 10, (digitChar d).toNat = 48 + d.val := by decide
  exact hAll ⟨d, h⟩

theorem isDigit_digitChar {d : Nat} (h : d < 10) : (digitChar d).isDigit = true := by
  have hAll : ∀ d : Fin 10, (digitChar d).isDigit = true := by decide
  exact hAll ⟨d, h⟩

theorem exists_digitChar {c : Char} (h : c.isDigit = true) : ∃ d < 10, c = digitChar d := by
  have hRange : 48 ≤ c.toNat ∧ c.toNat ≤ 57 := by
    simp only [Char.isDigit, Bool.and_eq_true, decide_eq_true_eq, ge_iff_le,
      UInt32.le_iff_toNat_le] at h
    exact h
  refine ⟨c.toNat - 48, by omega, ?_⟩
  rw [← Char.toNat_inj, toNat_digitChar (by omega)]
  omega

theorem isDigit_of_mem_digitsOf {n : Nat} {c : Char} (h : c ∈ digitsOf n) : c.isDigit = true := by
  refine digitsOf_induction (P := fun _ digits => ∀ c ∈ digits, c.isDigit = true)
    (fun d hd c hc => ?_) (fun n d digits _ hd ih c hc => ?_) n c h
  · rw [List.mem_singleton.mp hc]
    exact isDigit_digitChar hd
  · rcases List.mem_append.mp hc with hc | hc
    · exact ih c hc
    · rw [List.mem_singleton.mp hc]
      exact isDigit_digitChar hd

theorem valueOf_append_singleton (digits : List Char) (c : Char) :
    valueOf (digits ++ [c]) = 10 * valueOf digits + digitValue c := by
  simp [valueOf]

theorem digitValue_digitChar {d : Nat} (h : d < 10) : digitValue (digitChar d) = d := by
  rw [digitValue, toNat_digitChar h]
  exact Nat.add_sub_cancel_left 48 d

theorem valueOf_digitsOf (n : Nat) : valueOf (digitsOf n) = n := by
  refine digitsOf_induction (P := fun n digits => valueOf digits = n) (fun d hd => ?_)
    (fun n d digits _ hd ih => ?_) n
  · simpa [valueOf] using digitValue_digitChar hd
  · rw [valueOf_append_singleton, ih, digitValue_digitChar hd]

/-- Only the numeral of zero starts with a zero. -/
theorem exists_digitsOf_eq (n : Nat) :
    ∃ first rest, digitsOf n = first :: rest ∧ (first = '0' → n = 0) := by
  refine digitsOf_induction
    (P := fun n digits => ∃ first rest, digits = first :: rest ∧ (first = '0' → n = 0))
    (fun d hd => ⟨_, [], rfl, fun hZero => ?_⟩) (fun n d digits hn _ ih => ?_) n
  · have hCode := toNat_digitChar hd
    rw [hZero] at hCode
    exact Nat.left_eq_add.mp hCode
  · obtain ⟨first, rest, rfl, hFirst⟩ := ih
    exact ⟨first, _, rfl, fun hZero => absurd (hFirst hZero) (Nat.ne_of_gt hn)⟩

theorem digitsOf_injective {m n : Nat} (h : digitsOf m = digitsOf n) : m = n := by
  rw [← valueOf_digitsOf m, h, valueOf_digitsOf]

end Decimal

theorem natText_injective {m n : Nat} (h : natText m = natText n) : m = n :=
  Decimal.digitsOf_injective (String.ofList_injective h)

end ApiLoad
