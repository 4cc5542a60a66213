import ApiLoad.Number.Binary64
import Mathlib.Data.Rat.Cast.Order
import Mathlib.Order.Monotone.Basic
import Mathlib.Tactic.FieldSimp
import Mathlib.Tactic.Linarith
import Mathlib.Tactic.Positivity
import Mathlib.Tactic.Ring

/-!
# The nearest point of a grid

Naturals and doubles are both an ascending sequence of points in which a quotient is rounded to the
nearest, a tie going to the point with the even number. Comparing with the midpoints keeps all of this
in the naturals, and it is enough to compare with the two midpoints next to the chosen point.
-/
set_option autoImplicit false

namespace ApiLoad

structure NearestEven (grid : Nat → Nat) (num den m : Nat) : Prop where
  below : ∀ l < m, (grid l + grid m) * den ≤ 2 * num
  above : ∀ l, m < l → 2 * num ≤ (grid m + grid l) * den
  even : ∀ l, l ≠ m → (grid l + grid m) * den = 2 * num → m % 2 = 0

namespace NearestEven

variable {grid : Nat → Nat} {num den num' den' m m' : Nat}

theorem of_neighbours (hGrid : StrictMono grid)
    (hBelow : ∀ l, l + 1 = m → (grid l + grid m) * den ≤ 2 * num ∧
      ((grid l + grid m) * den = 2 * num → m % 2 = 0))
    (hAbove : 2 * num ≤ (grid m + grid (m + 1)) * den ∧
      (2 * num = (grid m + grid (m + 1)) * den → m % 2 = 0)) :
    NearestEven grid num den m := by
  have hLow {l p : Nat} (h : l ≤ p) : (grid l + grid m) * den ≤ (grid p + grid m) * den :=
    Nat.mul_le_mul_right _ (Nat.add_le_add_right (hGrid.monotone h) _)
  have hHigh {l : Nat} (h : m + 1 ≤ l) :
      (grid m + grid (m + 1)) * den ≤ (grid m + grid l) * den :=
    Nat.mul_le_mul_right _ (Nat.add_le_add_left (hGrid.monotone h) _)
  constructor
  · intro l hl
    obtain ⟨p, rfl⟩ := Nat.exists_eq_add_one_of_ne_zero (Nat.ne_zero_of_lt hl)
    exact Nat.le_trans (hLow (Nat.le_of_lt_succ hl)) (hBelow p rfl).1
  · intro l hl
    exact Nat.le_trans hAbove.1 (hHigh hl)
  · intro l hl hTie
    rcases Nat.lt_or_gt_of_ne hl with hLess | hMore
    · obtain ⟨p, rfl⟩ := Nat.exists_eq_add_one_of_ne_zero (Nat.ne_zero_of_lt hLess)
      apply (hBelow p rfl).2
      exact Nat.le_antisymm (hBelow p rfl).1 (hTie ▸ hLow (Nat.le_of_lt_succ hLess))
    · apply hAbove.2
      apply Nat.le_antisymm hAbove.1
      rw [← hTie, Nat.add_comm (grid l)]
      exact hHigh hMore

/-- Rounding to nearest is monotone. Were the larger quotient rounded lower, both would lie on the wrong
sides of one midpoint. -/
theorem le_of_lt (h : NearestEven grid num den m) (h' : NearestEven grid num' den' m')
    (hLess : num * den' < num' * den) : m ≤ m' := by
  apply Nat.le_of_not_lt
  intro hWrong
  have hLow := Nat.mul_le_mul_right den' (h.below m' hWrong)
  have hHigh := Nat.mul_le_mul_right den (h'.above m hWrong)
  have hSwap : (grid m' + grid m) * den * den' = (grid m' + grid m) * den' * den :=
    Nat.mul_right_comm _ _ _
  rw [hSwap, Nat.mul_assoc 2] at hLow
  rw [Nat.mul_assoc 2] at hHigh
  omega

theorem mid_lt_of_grid_le (hGrid : StrictMono grid) (hDen : 0 < den) {l : Nat} (hl : l < m)
    (hPoint : grid m * den ≤ num) : (grid l + grid m) * den < 2 * num := by
  have hPoints := Nat.mul_lt_mul_of_pos_right (hGrid hl) hDen
  rw [Nat.add_mul]
  omega

/-- A quotient past a point is not rounded to one before it. -/
theorem le_of_grid_le (h : NearestEven grid num den m) (hGrid : StrictMono grid) (hDen : 0 < den)
    {l : Nat} (hPoint : grid l * den ≤ num) : l ≤ m := by
  apply Nat.le_of_not_lt
  intro hWrong
  exact Nat.not_le_of_lt (mid_lt_of_grid_le hGrid hDen hWrong hPoint) (h.above l hWrong)

theorem le_of_le_grid (h : NearestEven grid num den m) (hGrid : StrictMono grid) (hDen : 0 < den)
    {l : Nat} (hPoint : num ≤ grid l * den) : m ≤ l := by
  apply Nat.le_of_not_lt
  intro hWrong
  have hMid := h.below l hWrong
  have hPoints := Nat.mul_lt_mul_of_pos_right (hGrid hWrong) hDen
  rw [Nat.add_mul] at hMid
  omega

/-! The points of the grid may be multiples of a small unit, of which one is `unit` many. -/

variable {unit : Nat}

theorem mid_le (h : NearestEven grid (num * unit) den m) (hUnit : 0 < unit) (hDen : 0 < den) {l : Nat}
    (hl : l < m) : (grid l : ℚ) / unit + grid m / unit ≤ 2 * (num / den) := by
  have hUnit : (0 : ℚ) < unit := Nat.cast_pos.2 hUnit
  have hDen : (0 : ℚ) < den := Nat.cast_pos.2 hDen
  have hMid : ((grid l : ℚ) + grid m) * den ≤ 2 * (num * unit) := by exact_mod_cast h.below l hl
  rw [← add_div, div_le_iff₀ hUnit, ← mul_div_assoc, div_mul_eq_mul_div, le_div_iff₀ hDen]
  linarith

theorem le_mid (h : NearestEven grid (num * unit) den m) (hUnit : 0 < unit) (hDen : 0 < den) {l : Nat}
    (hl : m < l) : 2 * (num / den : ℚ) ≤ grid m / unit + grid l / unit := by
  have hUnit : (0 : ℚ) < unit := Nat.cast_pos.2 hUnit
  have hDen : (0 : ℚ) < den := Nat.cast_pos.2 hDen
  have hMid : 2 * (num * unit) ≤ ((grid m : ℚ) + grid l) * den := by exact_mod_cast h.above l hl
  rw [← add_div, le_div_iff₀ hUnit, ← mul_div_assoc, div_mul_eq_mul_div, div_le_iff₀ hDen]
  linarith

theorem abs_sub_le (h : NearestEven grid (num * unit) den m) (hGrid : StrictMono grid)
    (hUnit : 0 < unit) (hDen : 0 < den) (l : Nat) :
    |(grid m : ℚ) / unit - num / den| ≤ |(grid l : ℚ) / unit - num / den| := by
  have hPoints {i j : Nat} (hij : i < j) : (grid i : ℚ) / unit < grid j / unit :=
    div_lt_div_of_pos_right (Nat.cast_lt.2 (hGrid hij)) (Nat.cast_pos.2 hUnit)
  rcases Nat.lt_trichotomy l m with hLess | rfl | hMore
  · have hMid := h.mid_le hUnit hDen hLess
    have hOrder := hPoints hLess
    rw [abs_of_nonpos (by linarith : (grid l : ℚ) / unit - num / den ≤ 0), abs_le]
    constructor <;> linarith
  · exact le_rfl
  · have hMid := h.le_mid hUnit hDen hMore
    have hOrder := hPoints hMore
    rw [abs_of_nonneg (by linarith : 0 ≤ (grid l : ℚ) / unit - num / den), abs_le]
    constructor <;> linarith

theorem even_of_abs_sub_eq (h : NearestEven grid (num * unit) den m) (hGrid : StrictMono grid)
    (hUnit : 0 < unit) (hDen : 0 < den) {l : Nat} (hl : l ≠ m)
    (hTie : |(grid l : ℚ) / unit - num / den| = |(grid m : ℚ) / unit - num / den|) : m % 2 = 0 := by
  have hUnit : (0 : ℚ) < unit := Nat.cast_pos.2 hUnit
  have hDen : (0 : ℚ) < den := Nat.cast_pos.2 hDen
  apply h.even l hl
  rcases abs_eq_abs.1 hTie with hSame | hMirror
  · have hPoints : (grid l : ℚ) = grid m := (div_left_inj' hUnit.ne').1 (sub_left_inj.1 hSame)
    exact absurd (hGrid.injective (Nat.cast_injective hPoints)) hl
  · have hMid : (grid l + grid m : ℚ) * den = 2 * (num * unit) := by
      field_simp at hMirror
      linarith
    exact_mod_cast hMid

end NearestEven

/-- The rounded quotient is no more than half a divisor away, and even where it is exactly that far. -/
theorem roundEven_spec (num : Nat) {den : Nat} (hDen : 0 < den) :
    2 * (roundEven num den * den) ≤ 2 * num + den ∧ 2 * num ≤ 2 * (roundEven num den * den) + den ∧
      (2 * (roundEven num den * den) = 2 * num + den ∨ 2 * num = 2 * (roundEven num den * den) + den →
        roundEven num den % 2 = 0) := by
  have hNum : num / den * den + num % den = num := by
    rw [Nat.mul_comm]
    exact Nat.div_add_mod num den
  have hRest := Nat.mod_lt num hDen
  simp only [roundEven]
  generalize num / den = q at *
  generalize num % den = r at *
  have hNext : (q + 1) * den = q * den + den := Nat.succ_mul q den
  split
  · omega
  · split
    · rw [hNext]
      omega
    · -- the quotient is halfway, and one step up makes it even if it is odd
      rcases Nat.mod_two_eq_zero_or_one q with hEven | hOdd
      · rw [hEven, Nat.add_zero]
        omega
      · rw [hOdd, hNext]
        omega

theorem roundEven_nearest (num : Nat) {den : Nat} (hDen : 0 < den) :
    NearestEven id num den (roundEven num den) := by
  obtain ⟨hLow, hHigh, hEven⟩ := roundEven_spec num hDen
  generalize roundEven num den = k at *
  have hAbove : (k + (k + 1)) * den = 2 * (k * den) + den := by ring
  have hBelow (l : Nat) (hl : l + 1 = k) : (l + k) * den + den = 2 * (k * den) := by
    subst hl
    ring
  apply NearestEven.of_neighbours strictMono_id
  · intro l hl
    have hMid := hBelow l hl
    simp only [id]
    exact ⟨by omega, fun hTie => hEven (.inl (by omega))⟩
  · simp only [id]
    exact ⟨by omega, fun hTie => hEven (.inr (by omega))⟩

theorem roundEven_mono {num num' den : Nat} (hDen : 0 < den) (h : num ≤ num') :
    roundEven num den ≤ roundEven num' den := by
  rcases Nat.lt_or_eq_of_le h with hLess | rfl
  · exact (roundEven_nearest num hDen).le_of_lt (roundEven_nearest num' hDen)
      (Nat.mul_lt_mul_of_pos_right hLess hDen)
  · exact le_rfl

/-- A natural is nearest to a number, and even if another one is as near. -/
structure IsNearest (q : ℚ) (n : Nat) : Prop where
  nearest : ∀ l : Nat, |(n : ℚ) - q| ≤ |(l : ℚ) - q|
  even : ∀ l : Nat, l ≠ n → |(l : ℚ) - q| = |(n : ℚ) - q| → n % 2 = 0

theorem isNearest_roundEven (num : Nat) {den : Nat} (hDen : 0 < den) :
    IsNearest (num / den) (roundEven num den) := by
  have h : NearestEven id (num * 1) den (roundEven num den) := by
    rw [Nat.mul_one]
    exact roundEven_nearest num hDen
  constructor
  · intro l
    simpa using h.abs_sub_le strictMono_id Nat.one_pos hDen l
  · intro l hl hTie
    exact h.even_of_abs_sub_eq strictMono_id Nat.one_pos hDen hl (by simpa using hTie)

end ApiLoad
