import ApiLoad.Proofs.Random.Draw
import Mathlib.Algebra.Order.Floor.Div
import Mathlib.Data.Finset.Prod
import Mathlib.Order.Interval.Finset.Nat

/-!
# Numbers below a bound are uniform

Two draws are the digits of one number, and a number below a bound is that number scaled down. The second
digit is drawn only where it can matter: elsewhere the low part of the first has no room for a carry. So
the pairs of draws fall into equal shares, one for each number, up to a single pair.
-/
set_option autoImplicit false

namespace ApiLoad

def Source.draw (source : Source) (width others : Nat) : Nat :=
  (source.word (source.position + others)).toNat % 2 ^ width

namespace Draw

def share (base n : Nat) (digits : Nat × Nat) : Nat :=
  (digits.1 * base + digits.2) * n / (base * base)

section Scale

variable {base n first second : Nat}

theorem share_lt (hBound : 0 < n) (hFirst : first < base) (hSecond : second < base) :
    share base n (first, second) < n := by
  have hDigits : first * base + second < base * base := by
    calc first * base + second < first * base + base := Nat.add_lt_add_left hSecond _
      _ = (first + 1) * base := (Nat.succ_mul ..).symm
      _ ≤ base * base := Nat.mul_le_mul_right base hFirst
  exact Nat.div_lt_of_lt_mul (Nat.mul_lt_mul_of_pos_right hDigits hBound)

theorem carry_lt (hBound : 0 < n) (hSecond : second < base) : second * n / base < n :=
  Nat.div_lt_of_lt_mul (Nat.mul_lt_mul_of_pos_right hSecond hBound)

/-- The low part of the first digit carries at most once, since the second digit adds less than `n`. -/
theorem share_eq (hBound : 0 < n) (hBase : n ≤ base) (hSecond : second < base) :
    share base n (first, second) = first * n / base +
      if base ≤ first * n % base + second * n / base then 1 else 0 := by
  have hPos : 0 < base := Nat.zero_lt_of_lt hSecond
  have hCarry := carry_lt hBound hSecond
  have hLow : first * n % base < base := Nat.mod_lt _ hPos
  have hScaled : (first * base + second) * n / base = first * n + second * n / base := by
    rw [Nat.add_mul, Nat.mul_right_comm, Nat.add_comm, Nat.add_mul_div_right _ _ hPos, Nat.add_comm]
  have hSplit : first * n + second * n / base =
      first * n % base + second * n / base + first * n / base * base := by
    have := Nat.div_add_mod' (first * n) base
    omega
  rw [share, ← Nat.div_div_eq_div_mul, hScaled, hSplit, Nat.add_mul_div_right _ _ hPos, Nat.add_comm]
  congr 1
  split
  · exact Nat.div_eq_of_lt_le (by omega) (by omega)
  · exact Nat.div_eq_of_lt (by omega)

/-- Where the second digit is not drawn, it cannot carry. -/
theorem share_eq_of_low (hBound : 0 < n) (hBase : n ≤ base) (hSecond : second < base)
    (hLow : first * n % base ≤ base - n) : share base n (first, second) = first * n / base := by
  have hCarry := carry_lt hBound hSecond
  rw [share_eq hBound hBase hSecond, if_neg (by omega), Nat.add_zero]

end Scale

theorem run_bits (width : Nat) (source : Source) :
    (bits width).run source =
      some (source.draw width 0, { source with position := source.position + 1 }) := rfl

/-- A number below a bound is what two draws scale down to, whether or not the second is made. -/
theorem run_below {width n : Nat} (hBound : 0 < n) (hBase : n ≤ 2 ^ width) (source : Source) :
    ∃ s, (below width n).run source =
      some (share (2 ^ width) n (source.draw width 0, source.draw width 1), s) := by
  have hSecond : source.draw width 1 < 2 ^ width := Nat.mod_lt _ (Nat.two_pow_pos width)
  have hWidth : Nat.pow 2 width = 2 ^ width := rfl
  rw [below, StateT.run_bind, run_bits]
  simp only [hWidth, Option.bind_eq_bind, Option.bind_some]
  split
  · have hNext : Source.draw { source with position := source.position + 1 } width 0 =
        source.draw width 1 := rfl
    rw [StateT.run_bind, run_bits, hNext, share_eq hBound hBase hSecond]
    refine ⟨{ source with position := source.position + 1 + 1 }, ?_⟩
    simp only [Option.bind_eq_bind, Option.bind_some]
    split <;> rfl
  · rename_i hLow
    rw [share_eq_of_low hBound hBase hSecond (Nat.le_of_not_lt hLow)]
    exact ⟨_, rfl⟩

section Shares

open Finset

variable {base n number : Nat}

def shareOf (base n number : Nat) : Finset (Nat × Nat) :=
  (range base ×ˢ range base).filter (share base n · = number)

theorem mem_shareOf {digits : Nat × Nat} : digits ∈ shareOf base n number ↔
    (digits.1 < base ∧ digits.2 < base) ∧ share base n digits = number := by
  rw [shareOf, mem_filter, mem_product, mem_range, mem_range]

theorem scale_eq_iff {total x : Nat} (hBound : 0 < n) (hTotal : 0 < total) :
    x * n / total = number ↔ x ∈ Ico (number * total ⌈/⌉ n) ((number + 1) * total ⌈/⌉ n) := by
  rw [mem_Ico, ceilDiv_le_iff_le_mul hBound, ← not_le, ceilDiv_le_iff_le_mul hBound, not_le,
    Nat.mul_comm n x]
  constructor
  · rintro rfl
    exact ⟨Nat.div_mul_le_self .., Nat.lt_mul_of_div_lt (Nat.lt_succ_self _) hTotal⟩
  · rintro ⟨hLeast, hMost⟩
    exact Nat.div_eq_of_lt_le hLeast hMost

/-- The shares are intervals of the numbers that pairs of digits spell. -/
theorem card_shareOf (hBound : 0 < n) (hNumber : number < n) (hBase : 0 < base) :
    (shareOf base n number).card =
      (number + 1) * (base * base) ⌈/⌉ n - number * (base * base) ⌈/⌉ n := by
  have hTotal : 0 < base * base := Nat.mul_pos hBase hBase
  rw [← Nat.card_Ico]
  refine card_nbij' (fun digits => digits.1 * base + digits.2) (fun x => (x / base, x % base)) ?_ ?_ ?_ ?_
  · intro digits hMem
    exact (scale_eq_iff hBound hTotal).mp (mem_shareOf.mp hMem).2
  · intro x hMem
    have hShare := (scale_eq_iff hBound hTotal).mpr hMem
    have hBelow : x < base * base := by
      have hScaled : x * n < n * (base * base) :=
        (Nat.div_lt_iff_lt_mul hTotal).mp (hShare.trans_lt hNumber)
      rw [Nat.mul_comm] at hScaled
      exact Nat.lt_of_mul_lt_mul_left hScaled
    refine mem_shareOf.mpr ⟨⟨Nat.div_lt_of_lt_mul hBelow, Nat.mod_lt _ hBase⟩, ?_⟩
    rw [share, Nat.div_add_mod', hShare]
  · rintro ⟨first, second⟩ hMem
    have hSecond := (mem_shareOf.mp hMem).1.2
    refine Prod.ext ?_ ?_
    · change (first * base + second) / base = first
      rw [Nat.add_comm, Nat.add_mul_div_right _ _ hBase, Nat.div_eq_of_lt hSecond, Nat.zero_add]
    · change (first * base + second) % base = second
      rw [Nat.add_comm, Nat.add_mul_mod_self_right, Nat.mod_eq_of_lt hSecond]
  · intro x _
    exact Nat.div_add_mod' x base

/-- Every share has as many pairs as all pairs have room for, or one more. -/
theorem card_shareOf_bounds (hBound : 0 < n) (hNumber : number < n) (hBase : 0 < base) :
    base * base / n ≤ (shareOf base n number).card ∧
      (shareOf base n number).card ≤ base * base / n + 1 := by
  rw [card_shareOf hBound hNumber hBase, Nat.succ_mul]
  generalize base * base = total
  have hStart : number * total ≤ n * (number * total ⌈/⌉ n) := le_smul_ceilDiv hBound
  have hEnd : number * total + total ≤ n * ((number * total + total) ⌈/⌉ n) := le_smul_ceilDiv hBound
  have hFloor : n * (total / n) ≤ total := Nat.mul_div_le total n
  have hCeil : total < n * (total / n + 1) := Nat.lt_mul_div_succ total hBound
  generalize total / n = room at *
  constructor
  · have hLeast : number * total ⌈/⌉ n ≤ (number * total + total) ⌈/⌉ n - room := by
      rw [ceilDiv_le_iff_le_mul hBound, Nat.mul_sub]
      omega
    have hRoom : room ≤ (number * total + total) ⌈/⌉ n :=
      Nat.le_of_mul_le_mul_left (by omega : n * room ≤ _) hBound
    omega
  · have hMost : (number * total + total) ⌈/⌉ n ≤ number * total ⌈/⌉ n + (room + 1) := by
      rw [ceilDiv_le_iff_le_mul hBound, Nat.mul_add]
      omega
    omega

end Shares

end Draw
end ApiLoad
