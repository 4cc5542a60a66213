import ApiLoad.Proofs.Number.Nearest

/-!
# Doubles are rationals, and a quotient is rounded to the nearest

Without its sign a double is a place in one ascending grid: the next place is one step away, and a step
is twice as long in every binade after the second. A quotient goes to the nearest place of that grid,
and to an infinity when that place is past the last finite double.
-/
set_option autoImplicit false

namespace ApiLoad.Binary64

/-- The units at a place of the grid, which goes on past the largest finite double. -/
def unitsAt (place : Nat) : Nat :=
  if place / exponentWeight = 0 then place
  else (exponentWeight + place % exponentWeight) * 2 ^ (place / exponentWeight - 1)

theorem unitsAt_of_lt {place : Nat} (h : place < exponentWeight) : unitsAt place = place := by
  rw [unitsAt, if_pos (Nat.div_eq_of_lt h)]

@[simp] theorem unitsAt_zero : unitsAt 0 = 0 := unitsAt_of_lt (by decide)

theorem unitsAt_normal (binade : Nat) {fraction : Nat} (h : fraction < exponentWeight) :
    unitsAt ((binade + 1) * exponentWeight + fraction) = (exponentWeight + fraction) * 2 ^ binade := by
  have hDiv : ((binade + 1) * exponentWeight + fraction) / exponentWeight = binade + 1 := by
    rw [exponentWeight] at *
    omega
  have hMod : ((binade + 1) * exponentWeight + fraction) % exponentWeight = fraction := by
    rw [exponentWeight] at *
    omega
  rw [unitsAt, hDiv, hMod, if_neg (Nat.succ_ne_zero _), Nat.add_sub_cancel]

theorem unitsAt_binade {binade k : Nat} (hLow : binade = 0 ∨ exponentWeight ≤ k)
    (hHigh : k ≤ 2 * exponentWeight) : unitsAt (binade * exponentWeight + k) = k * 2 ^ binade := by
  rcases Nat.lt_or_ge k exponentWeight with hSmall | hNormal
  · obtain rfl : binade = 0 := by omega
    rw [Nat.zero_mul, Nat.zero_add, unitsAt_of_lt hSmall, Nat.pow_zero, Nat.mul_one]
  · obtain ⟨fraction, rfl⟩ := Nat.exists_eq_add_of_le hNormal
    rcases Nat.lt_or_eq_of_le hHigh with hInside | hEnd
    · rw [← unitsAt_normal binade (by omega : fraction < exponentWeight), Nat.succ_mul, Nat.add_assoc]
    · obtain rfl : fraction = exponentWeight := by omega
      have hNext := unitsAt_normal (binade + 1) (by decide : 0 < exponentWeight)
      rw [Nat.add_zero, Nat.add_zero, Nat.pow_succ] at hNext
      rw [← Nat.add_assoc, ← Nat.succ_mul, ← Nat.succ_mul, hNext]
      ring

theorem exists_binade (place : Nat) : ∃ binade k, place = binade * exponentWeight + k ∧
    (binade = 0 ∨ exponentWeight ≤ k) ∧ k < 2 * exponentWeight := by
  rcases Nat.lt_or_ge place exponentWeight with hSmall | hNormal
  · exact ⟨0, place, by omega, .inl rfl, by omega⟩
  · refine ⟨place / exponentWeight - 1, exponentWeight + place % exponentWeight, ?_, .inr ?_, ?_⟩ <;>
      rw [exponentWeight] at * <;> omega

theorem unitsAt_succ {binade k : Nat} (hLow : binade = 0 ∨ exponentWeight ≤ k)
    (hHigh : k < 2 * exponentWeight) : unitsAt (binade * exponentWeight + k + 1) =
      unitsAt (binade * exponentWeight + k) + 2 ^ binade := by
  rw [unitsAt_binade hLow (Nat.le_of_lt hHigh), Nat.add_assoc,
    unitsAt_binade (by omega) (by omega), Nat.succ_mul]

theorem step_le {binade k : Nat} (hLow : binade = 0 ∨ exponentWeight ≤ k)
    (hHigh : k ≤ 2 * exponentWeight) : unitsAt (binade * exponentWeight + k) + 2 ^ binade ≤
      unitsAt (binade * exponentWeight + k + 1) := by
  rcases Nat.lt_or_eq_of_le hHigh with hInside | rfl
  · exact Nat.le_of_eq (unitsAt_succ hLow hInside).symm
  · -- the end of a binade is the start of the next one, where steps are longer
    have hPlace : binade * exponentWeight + 2 * exponentWeight =
        (binade + 1) * exponentWeight + exponentWeight := by ring
    rw [hPlace, unitsAt_succ (.inr le_rfl) (by decide)]
    exact Nat.add_le_add_left (Nat.pow_le_pow_right (by decide) (Nat.le_succ _)) _

theorem unitsAt_strictMono : StrictMono unitsAt := by
  apply strictMono_nat_of_lt_succ
  intro place
  obtain ⟨binade, k, rfl, hLow, hHigh⟩ := exists_binade place
  rw [unitsAt_succ hLow hHigh]
  exact Nat.lt_add_of_pos_right (Nat.two_pow_pos _)

theorem unitsAt_pred {binade k l : Nat} (hInside : binade = 0 ∨ exponentWeight < k)
    (hHigh : k ≤ 2 * exponentWeight) (hl : l + 1 = binade * exponentWeight + k) :
    ∃ j, j + 1 = k ∧ unitsAt l = j * 2 ^ binade := by
  have hPos : 0 < k := by
    rcases hInside with rfl | hMore <;> omega
  obtain rfl : l = binade * exponentWeight + (k - 1) := by omega
  exact ⟨k - 1, by omega, unitsAt_binade (hInside.imp_right Nat.le_sub_one_of_lt) (by omega)⟩

/-! ## Rounding a quotient of units -/

/-- The place of the nearest point if no exponent were too large. -/
def nearestPlace (num den : Nat) : Nat :=
  let binade := Nat.log2 (num / den) - 52
  binade * exponentWeight + roundEven num (den * 2 ^ binade)

theorem nearestMagnitude_eq (num den : Nat) :
    nearestMagnitude num den = min infinityBits (nearestPlace num den) := rfl

/-- The binade is chosen so that the quotient has at most 53 bits before the point, and exactly so many
unless it is in the first. -/
theorem binade_bounds (num : Nat) {den : Nat} (hDen : 0 < den) {binade : Nat}
    (h : binade = Nat.log2 (num / den) - 52) :
    (binade = 0 ∨ exponentWeight * (den * 2 ^ binade) ≤ num) ∧
      num < 2 * exponentWeight * (den * 2 ^ binade) := by
  have hWeight : exponentWeight * (den * 2 ^ binade) = 2 ^ (binade + 52) * den := by
    rw [Nat.pow_add, exponentWeight]
    ring
  rw [Nat.mul_assoc 2, hWeight]
  constructor
  · rcases Nat.eq_zero_or_pos binade with hZero | hPos
    · exact .inl hZero
    · right
      apply Nat.mul_le_of_le_div
      have hLog : binade + 52 = Nat.log2 (num / den) := by omega
      rw [hLog]
      apply Nat.log2_self_le
      intro hZero
      rw [hZero, Nat.log2_zero] at hLog
      omega
  · rw [← Nat.mul_assoc, ← Nat.pow_succ', ← Nat.div_lt_iff_lt_mul hDen]
    apply Nat.lt_of_lt_of_le Nat.lt_log2_self
    exact Nat.pow_le_pow_right (by decide) (by omega)

theorem nearestPlace_nearest (num : Nat) {den : Nat} (hDen : 0 < den) :
    NearestEven unitsAt num den (nearestPlace num den) := by
  simp only [nearestPlace]
  generalize hBinade : Nat.log2 (num / den) - 52 = binade
  obtain ⟨hLow, hHigh⟩ := binade_bounds num hDen hBinade.symm
  have hStep : 0 < den * 2 ^ binade := Nat.mul_pos hDen (Nat.two_pow_pos _)
  have hRounded := roundEven_nearest num hStep
  generalize roundEven num (den * 2 ^ binade) = k at *
  have hLowest : binade = 0 ∨ exponentWeight ≤ k :=
    hLow.imp_right (hRounded.le_of_grid_le strictMono_id hStep)
  have hHighest : k ≤ 2 * exponentWeight :=
    hRounded.le_of_le_grid strictMono_id hStep (Nat.le_of_lt hHigh)
  have hPlace := unitsAt_binade hLowest hHighest
  have hEven (h : k % 2 = 0) : (binade * exponentWeight + k) % 2 = 0 := by
    rw [exponentWeight]
    omega
  have hMid (i j : Nat) : (i * 2 ^ binade + j * 2 ^ binade) * den = (i + j) * (den * 2 ^ binade) := by
    ring
  apply NearestEven.of_neighbours unitsAt_strictMono
  · intro l hl
    by_cases hInside : binade = 0 ∨ exponentWeight < k
    · obtain ⟨j, hj, hUnits⟩ := unitsAt_pred hInside hHighest hl
      rw [hPlace, hUnits, hMid]
      exact ⟨hRounded.below j (by omega), fun hTie => hEven (hRounded.even j (by omega) hTie)⟩
    · -- the place before lies in a finer binade, and the quotient has come to this one
      have hPoint : unitsAt (binade * exponentWeight + k) * den ≤ num := by
        rw [hPlace, Nat.mul_right_comm, Nat.mul_assoc]
        exact Nat.le_trans (Nat.mul_le_mul_right _ (by omega)) (hLow.resolve_left (by omega))
      have hLess := NearestEven.mid_lt_of_grid_le unitsAt_strictMono hDen (by omega : l < _) hPoint
      exact ⟨hLess.le, fun hTie => absurd hTie hLess.ne⟩
  · have hNext : (k + 1) * 2 ^ binade ≤ unitsAt (binade * exponentWeight + k + 1) := by
      rw [Nat.succ_mul, ← hPlace]
      exact step_le hLowest hHighest
    have hAbove := hRounded.above (k + 1) (Nat.lt_succ_self k)
    have hAfter : (k + (k + 1)) * (den * 2 ^ binade) ≤
        (unitsAt (binade * exponentWeight + k) + unitsAt (binade * exponentWeight + k + 1)) * den := by
      rw [← hMid, hPlace]
      exact Nat.mul_le_mul_right _ (Nat.add_le_add_left hNext _)
    refine ⟨Nat.le_trans hAbove hAfter, fun hTie => hEven (hRounded.even (k + 1) (by omega) ?_)⟩
    simp only [id] at *
    rw [Nat.add_comm (k + 1)]
    omega

/-! ## Doubles on the grid -/

/-- The bits without the sign. -/
def place (x : Binary64) : Nat := x.bits.toNat % signWeight

theorem place_lt (x : Binary64) : x.place < signWeight := Nat.mod_lt _ (by decide)

theorem exponent_eq (x : Binary64) : x.exponent = x.place / exponentWeight := by
  simp only [exponent, place, signWeight, exponentWeight]
  omega

theorem fraction_eq (x : Binary64) : x.fraction = x.place % exponentWeight := by
  simp only [fraction, place, signWeight, exponentWeight]
  omega

theorem units_eq (x : Binary64) : x.units = unitsAt x.place := by
  have hPlace := Nat.div_add_mod' x.place exponentWeight
  simp only [units, significand, ulp, exponent_eq, fraction_eq, unitsAt, Nat.pow_eq]
  split
  · rename_i hZero
    rw [hZero, Nat.zero_mul, Nat.zero_add] at hPlace
    rw [hPlace, hZero, Nat.pow_zero, Nat.mul_one]
  · rfl

theorem isFinite_iff (x : Binary64) : x.isFinite = true ↔ x.place < infinityBits := by
  have hPlace := x.place_lt
  simp only [isFinite, exponent_eq, bne_iff_ne, infinityBits, signWeight, exponentWeight] at *
  omega

theorem toNat_ofMagnitude {magnitude : Nat} (h : magnitude ≤ infinityBits) :
    (ofMagnitude false magnitude).bits.toNat = magnitude := by
  have hBits : infinityBits < 2 ^ 64 := by decide
  rw [ofMagnitude, signBit, if_neg Bool.false_ne_true, Nat.zero_add]
  exact UInt64.toNat_ofNat_of_lt' (Nat.lt_of_le_of_lt h hBits)

theorem place_ofMagnitude {magnitude : Nat} (h : magnitude ≤ infinityBits) :
    (ofMagnitude false magnitude).place = magnitude := by
  have hBits : infinityBits < signWeight := by decide
  rw [place, toNat_ofMagnitude h, Nat.mod_eq_of_lt (by omega)]

theorem negative_ofMagnitude {magnitude : Nat} (h : magnitude ≤ infinityBits) :
    (ofMagnitude false magnitude).negative = false := by
  have hBits : infinityBits < signWeight := by decide
  rw [negative, toNat_ofMagnitude h, decide_eq_false_iff_not]
  omega

/-- The number that a finite double is. -/
def value (x : Binary64) : ℚ := (if x.negative then -1 else 1) * (x.units / unitsPerOne)

theorem unitsPerOne_pos : 0 < unitsPerOne := by decide +kernel

theorem units_div_nonneg (units : Nat) : (0 : ℚ) ≤ units / unitsPerOne :=
  div_nonneg (Nat.cast_nonneg _) (Nat.cast_nonneg _)

theorem abs_value (x : Binary64) : |x.value| = (unitsAt x.place : ℚ) / unitsPerOne := by
  have hUnits : (0 : ℚ) ≤ (x.units : ℚ) / unitsPerOne := div_nonneg (Nat.cast_nonneg _) (Nat.cast_nonneg _)
  rw [← units_eq, value]
  split
  · rw [neg_one_mul, abs_neg, abs_of_nonneg hUnits]
  · rw [one_mul, abs_of_nonneg hUnits]

theorem value_of_not_negative {x : Binary64} (h : x.negative = false) :
    x.value = (unitsAt x.place : ℚ) / unitsPerOne := by
  rw [value, h, if_neg Bool.false_ne_true, one_mul, units_eq]

theorem value_pos_iff (x : Binary64) : 0 < x.value ↔ x.negative = false ∧ 0 < x.units := by
  have hUnit : (0 : ℚ) < unitsPerOne := Nat.cast_pos.2 unitsPerOne_pos
  rw [value]
  cases x.negative
  · rw [if_neg Bool.false_ne_true, one_mul, div_pos_iff_of_pos_right hUnit, Nat.cast_pos]
    simp
  · rw [if_pos rfl, neg_one_mul]
    constructor
    · intro h
      exact absurd h (not_lt.2 (neg_nonpos.2 (units_div_nonneg _)))
    · rintro ⟨⟨⟩, -⟩

theorem isPositive_iff (x : Binary64) : x.isPositive = true ↔ x.isFinite = true ∧ 0 < x.value := by
  rw [value_pos_iff, isPositive, Bool.and_eq_true, Bool.and_eq_true, bne_iff_ne, Bool.not_eq_true',
    Nat.pos_iff_ne_zero, and_assoc]

theorem units_le_iff {x y : Binary64} (hx : x.negative = false) (hy : y.negative = false) :
    x.units ≤ y.units ↔ x.value ≤ y.value := by
  have hUnit : (0 : ℚ) < unitsPerOne := Nat.cast_pos.2 unitsPerOne_pos
  rw [value_of_not_negative hx, value_of_not_negative hy, div_le_div_iff_of_pos_right hUnit,
    Nat.cast_le, units_eq, units_eq]

/-- The first number that is too large for a finite double is halfway between the largest of them and
the next power of two. -/
def overflow : Nat := 2 ^ 1024 - 2 ^ 970

theorem overflow_units :
    unitsAt (infinityBits - 1) + unitsAt infinityBits = 2 * (overflow * unitsPerOne) := by
  decide +kernel

/-- The double for a number that is not negative: the nearest one, of two that are as near the one with
the even fraction, and the infinity when the number is too large. -/
structure IsRounding (q : ℚ) (x : Binary64) : Prop where
  not_negative : x.negative = false
  isFinite_iff : x.isFinite = true ↔ q < overflow
  infinite : x.isFinite = false → x = infinity false
  nearest : x.isFinite = true → ∀ y : Binary64, y.isFinite = true → |x.value - q| ≤ |y.value - q|
  even : x.isFinite = true → ∀ y : Binary64, y.isFinite = true → y.value ≠ x.value →
    |y.value - q| = |x.value - q| → x.fraction % 2 = 0

theorem infinityBits_le_iff (num : Nat) {den : Nat} (hDen : 0 < den) :
    infinityBits ≤ nearestPlace (num * unitsPerOne) den ↔ overflow * den ≤ num := by
  have hPlace := nearestPlace_nearest (num * unitsPerOne) hDen
  generalize nearestPlace (num * unitsPerOne) den = m at *
  have hMid : (unitsAt (infinityBits - 1) + unitsAt infinityBits) * den ≤ 2 * (num * unitsPerOne) ↔
      overflow * den ≤ num := by
    rw [overflow_units, Nat.mul_assoc 2, Nat.mul_le_mul_left_iff (by decide), Nat.mul_right_comm,
      Nat.mul_le_mul_right_iff unitsPerOne_pos]
  rw [← hMid]
  constructor
  · intro h
    have hBelow := hPlace.below (infinityBits - 1) (by rw [infinityBits, exponentWeight] at *; omega)
    apply Nat.le_trans _ hBelow
    exact Nat.mul_le_mul_right _ (Nat.add_le_add_left (unitsAt_strictMono.monotone h) _)
  · intro h
    apply Nat.le_of_not_lt
    intro hWrong
    have hLast : m ≤ infinityBits - 1 := Nat.le_sub_one_of_lt hWrong
    have hUnits : (unitsAt m + unitsAt infinityBits) * den ≤
        (unitsAt (infinityBits - 1) + unitsAt infinityBits) * den :=
      Nat.mul_le_mul_right _ (Nat.add_le_add_right (unitsAt_strictMono.monotone hLast) _)
    have hAbove := hPlace.above infinityBits hWrong
    -- the quotient is the midpoint, so the place is the last finite one, and that is odd
    have hTie : (unitsAt m + unitsAt infinityBits) * den = 2 * (num * unitsPerOne) := by omega
    have hSame : (unitsAt m + unitsAt infinityBits) * den =
        (unitsAt (infinityBits - 1) + unitsAt infinityBits) * den := by omega
    obtain rfl : m = infinityBits - 1 :=
      unitsAt_strictMono.injective (Nat.add_right_cancel (Nat.eq_of_mul_eq_mul_right hDen hSame))
    rw [Nat.add_comm] at hTie
    exact absurd (hPlace.even infinityBits (Nat.ne_of_gt hWrong) hTie) (by decide)

section Nearest

variable {num den m : Nat}

theorem abs_sub_le_of_nearest (h : NearestEven unitsAt (num * unitsPerOne) den m) (hDen : 0 < den)
    (y : Binary64) : |(unitsAt m : ℚ) / unitsPerOne - num / den| ≤ |(|y.value| - num / den)| := by
  rw [abs_value]
  exact h.abs_sub_le unitsAt_strictMono unitsPerOne_pos hDen y.place

/-- A minus sign does not bring a double closer to a number that has none. -/
theorem abs_sub_le_of_nonneg {q : ℚ} (hq : 0 ≤ q) (y : ℚ) : |(|y| - q)| ≤ |y - q| := by
  have h := abs_abs_sub_abs_le y q
  rwa [abs_of_nonneg hq] at h

theorem eq_of_mirrored {v y q : ℚ} (hv : 0 ≤ v) (hq : 0 ≤ q) (hAbs : |y| = v) (hZero : |v - q| ≤ q)
    (hTie : |y - q| = |v - q|) : y = v := by
  rcases (abs_eq hv).1 hAbs with hSame | hMirror
  · exact hSame
  · rw [hMirror, abs_of_nonpos (by linarith)] at hTie
    linarith

theorem even_of_tie (h : NearestEven unitsAt (num * unitsPerOne) den m) (hDen : 0 < den)
    {y : Binary64} (hNe : y.value ≠ (unitsAt m : ℚ) / unitsPerOne)
    (hTie : |y.value - num / den| = |(unitsAt m : ℚ) / unitsPerOne - num / den|) : m % 2 = 0 := by
  have hQuotient : (0 : ℚ) ≤ num / den := by positivity
  have hUnsigned : |(|y.value| - (num / den : ℚ))| = |(unitsAt m : ℚ) / unitsPerOne - num / den| :=
    le_antisymm (hTie ▸ abs_sub_le_of_nonneg hQuotient y.value) (abs_sub_le_of_nearest h hDen y)
  by_cases hPlace : y.place = m
  · have hZero := h.abs_sub_le unitsAt_strictMono unitsPerOne_pos hDen 0
    rw [unitsAt_zero, Nat.cast_zero, zero_div, zero_sub, abs_neg, abs_of_nonneg hQuotient] at hZero
    refine absurd (eq_of_mirrored ?_ hQuotient ?_ hZero hTie) hNe
    · exact units_div_nonneg _
    · rw [abs_value, hPlace]
  · rw [abs_value] at hUnsigned
    exact h.even_of_abs_sub_eq unitsAt_strictMono unitsPerOne_pos hDen hPlace hUnsigned

end Nearest

theorem isRounding_ofRatio (num : Nat) {den : Nat} (hDen : 0 < den) :
    IsRounding (num / den) (ofRatio false num den) := by
  have hNearest := nearestPlace_nearest (num * unitsPerOne) hDen
  have hOverflow := infinityBits_le_iff num hDen
  simp only [ofRatio, nearestMagnitude_eq]
  generalize nearestPlace (num * unitsPerOne) den = m at *
  have hLe : min infinityBits m ≤ infinityBits := Nat.min_le_left _ _
  have hFinite : (ofMagnitude false (min infinityBits m)).isFinite = true ↔ m < infinityBits := by
    rw [isFinite_iff, place_ofMagnitude hLe]
    omega
  have hPlace (h : m < infinityBits) : (ofMagnitude false (min infinityBits m)).place = m := by
    rw [place_ofMagnitude hLe, Nat.min_eq_right (Nat.le_of_lt h)]
  have hValue (h : m < infinityBits) : (ofMagnitude false (min infinityBits m)).value =
      (unitsAt m : ℚ) / unitsPerOne := by
    rw [value_of_not_negative (negative_ofMagnitude hLe), hPlace h]
  constructor
  · exact negative_ofMagnitude hLe
  · have hDen : (0 : ℚ) < den := Nat.cast_pos.2 hDen
    rw [hFinite, div_lt_iff₀ hDen, ← Nat.not_le, hOverflow, Nat.not_le, ← Nat.cast_mul, Nat.cast_lt]
  · intro hInfinite
    have hPast : infinityBits ≤ m := by
      apply Nat.le_of_not_lt
      rw [← hFinite, hInfinite]
      exact Bool.false_ne_true
    rw [Nat.min_eq_left hPast, infinity]
  · intro h y _
    rw [hValue (hFinite.1 h)]
    exact (abs_sub_le_of_nearest hNearest hDen y).trans (abs_sub_le_of_nonneg (by positivity) y.value)
  · intro h y _ hNe hTie
    rw [hValue (hFinite.1 h)] at hNe hTie
    rw [fraction_eq, hPlace (hFinite.1 h), Nat.mod_mod_of_dvd _ (by decide)]
    exact even_of_tie hNearest hDen hNe hTie

theorem isRounding_inverse {x : Binary64} (hPos : 0 < x.value) : IsRounding (1 / x.value) x.inverse := by
  obtain ⟨hSign, hUnits⟩ := x.value_pos_iff.1 hPos
  rw [value_of_not_negative hSign, one_div_div, ← units_eq]
  exact isRounding_ofRatio unitsPerOne hUnits

theorem place_inverse_le {x y : Binary64} (hPos : 0 < x.units) (h : x.units ≤ y.units) :
    y.inverse.place ≤ x.inverse.place := by
  have hDen := Nat.lt_of_lt_of_le hPos h
  rw [inverse, inverse, ofRatio, ofRatio, nearestMagnitude_eq, nearestMagnitude_eq,
    place_ofMagnitude (Nat.min_le_left _ _), place_ofMagnitude (Nat.min_le_left _ _)]
  rcases Nat.lt_or_eq_of_le h with hLess | hSame
  · have hNum : 0 < unitsPerOne * unitsPerOne := Nat.mul_pos unitsPerOne_pos unitsPerOne_pos
    have hPlaces : nearestPlace (unitsPerOne * unitsPerOne) y.units ≤
        nearestPlace (unitsPerOne * unitsPerOne) x.units :=
      (nearestPlace_nearest _ hDen).le_of_lt (nearestPlace_nearest _ hPos)
        (Nat.mul_lt_mul_of_pos_left hLess hNum)
    omega
  · rw [hSame]

end ApiLoad.Binary64
