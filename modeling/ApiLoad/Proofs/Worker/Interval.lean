import ApiLoad.Proofs.Number.Rounding
import ApiLoad.Proofs.Worker.Pace

/-!
# The period of a rate

A positive rate goes through a division, a conversion that refuses long waits and a clamp. Both
roundings on the way are monotone and the refusal counts as the longest wait, so a higher rate never
has a longer period.
-/
set_option autoImplicit false

namespace ApiLoad.Interval

/-- The nanoseconds of a number of seconds, of which a duration holds fewer than `2 ^ 64`. -/
inductive Lasts (seconds : Binary64) : Option Nat → Prop
  | fits {n : Nat} (hFinite : seconds.isFinite = true) (hLess : seconds.value < 2 ^ 64)
      (h : IsNearest (seconds.value * second) n) : Lasts seconds (some n)
  | tooLong (h : seconds.isFinite = false ∨ 2 ^ 64 ≤ seconds.value) : Lasts seconds none

/-- There is no double in the last half nanosecond before the limit, so it is the same to compare before
rounding. -/
theorem roundEven_lt_iff (x : Binary64) :
    roundEven (x.units * second) Binary64.unitsPerOne < Counter.limit * second ↔
      x.units < Counter.limit * Binary64.unitsPerOne := by
  have hLimit : Binary64.unitsAt (1087 * Binary64.exponentWeight) =
      Counter.limit * Binary64.unitsPerOne := by decide +kernel
  have hBefore : Binary64.unitsAt (1087 * Binary64.exponentWeight - 1) =
      (Counter.limit - 2048) * Binary64.unitsPerOne := by decide +kernel
  have hRounded := roundEven_nearest (x.units * second) Binary64.unitsPerOne_pos
  constructor
  · intro h
    apply Nat.lt_of_not_le
    intro hPast
    refine Nat.not_le_of_lt h (hRounded.le_of_grid_le strictMono_id Binary64.unitsPerOne_pos ?_)
    rw [id, Nat.mul_right_comm]
    exact Nat.mul_le_mul_right second hPast
  · intro h
    rw [Binary64.units_eq, ← hLimit] at h
    have hPlace := Nat.le_sub_one_of_lt (Binary64.unitsAt_strictMono.lt_iff_lt.1 h)
    have hUnits := Binary64.unitsAt_strictMono.monotone hPlace
    rw [hBefore, ← Binary64.units_eq] at hUnits
    have hLe : roundEven (x.units * second) Binary64.unitsPerOne ≤ (Counter.limit - 2048) * second := by
      apply hRounded.le_of_le_grid strictMono_id Binary64.unitsPerOne_pos
      rw [id, Nat.mul_right_comm]
      exact Nat.mul_le_mul_right second hUnits
    exact Nat.lt_of_le_of_lt hLe (by decide)

theorem value_lt_iff {x : Binary64} (h : x.negative = false) :
    x.value < 2 ^ 64 ↔ x.units < Counter.limit * Binary64.unitsPerOne := by
  have hUnit : (0 : ℚ) < Binary64.unitsPerOne := Nat.cast_pos.2 Binary64.unitsPerOne_pos
  have hLimit : (2 : ℚ) ^ 64 = Counter.limit := by
    rw [Counter.limit]
    norm_num
  rw [Binary64.value_of_not_negative h, ← Binary64.units_eq, div_lt_iff₀ hUnit, hLimit, ← Nat.cast_mul,
    Nat.cast_lt]

theorem lasts_nanoseconds? {seconds : Binary64} (h : seconds.negative = false) :
    Lasts seconds (nanoseconds? seconds) := by
  have hLess : roundEven (seconds.units * second) Binary64.unitsPerOne < Counter.limit * second ↔
      seconds.value < 2 ^ 64 := (roundEven_lt_iff seconds).trans (value_lt_iff h).symm
  have hExact : seconds.value * second =
      (seconds.units * second : Nat) / (Binary64.unitsPerOne : ℚ) := by
    rw [Binary64.value_of_not_negative h, ← Binary64.units_eq, Nat.cast_mul, div_mul_eq_mul_div]
  simp only [nanoseconds?, hLess]
  split
  · rename_i hFits
    apply Lasts.fits hFits.1 hFits.2
    rw [hExact]
    exact isNearest_roundEven _ Binary64.unitsPerOne_pos
  · rename_i hLong
    apply Lasts.tooLong
    rcases Bool.eq_false_or_eq_true seconds.isFinite with hFinite | hInfinite
    · exact .inr (not_lt.1 (fun hValue => hLong ⟨hFinite, hValue⟩))
    · exact .inl hInfinite

/-- A shorter wait fits if a longer one does. -/
theorem nanoseconds?_le {x y : Binary64} (h : x.place ≤ y.place) {n : Nat} (hFits : nanoseconds? y = some n) :
    ∃ m, nanoseconds? x = some m ∧ m ≤ n := by
  simp only [nanoseconds?, Option.ite_none_right_eq_some, Option.some.injEq] at hFits ⊢
  obtain ⟨⟨hFinite, hLess⟩, rfl⟩ := hFits
  have hUnits : x.units * second ≤ y.units * second := by
    rw [Binary64.units_eq, Binary64.units_eq]
    exact Nat.mul_le_mul_right second (Binary64.unitsAt_strictMono.monotone h)
  have hRounded := roundEven_mono Binary64.unitsPerOne_pos hUnits
  rw [Binary64.isFinite_iff] at hFinite ⊢
  exact ⟨_, ⟨⟨Nat.lt_of_le_of_lt h hFinite, Nat.lt_of_le_of_lt hRounded hLess⟩, rfl⟩, hRounded⟩

theorem ofRate_le_longest (rate : Binary64) : ofRate rate ≤ longest := by
  rw [ofRate]
  split
  · exact Nat.min_le_right _ _
  · decide

theorem ofRate_of_pos {rate : Binary64} (hFinite : rate.isFinite = true) (hPos : 0 < rate.value) :
    ofRate rate = min (max ((nanoseconds? rate.inverse).getD longest) shortest) longest := by
  rw [ofRate, if_pos (rate.isPositive_iff.2 ⟨hFinite, hPos⟩)]

theorem ofRate_antitone {slow fast : Binary64} (hSlow : slow.isFinite = true)
    (hFast : fast.isFinite = true) (hPos : 0 < slow.value) (h : slow.value ≤ fast.value) :
    ofRate fast ≤ ofRate slow := by
  obtain ⟨hSlowSign, hUnits⟩ := slow.value_pos_iff.1 hPos
  obtain ⟨hFastSign, -⟩ := fast.value_pos_iff.1 (hPos.trans_le h)
  have hPlaces := Binary64.place_inverse_le hUnits ((Binary64.units_le_iff hSlowSign hFastSign).2 h)
  rw [ofRate_of_pos hSlow hPos]
  cases hFits : nanoseconds? slow.inverse with
  | none =>
    have hLongest : min (max longest shortest) longest = longest := by decide
    rw [Option.getD_none, hLongest]
    exact ofRate_le_longest fast
  | some n =>
    obtain ⟨m, hEq, hLe⟩ := nanoseconds?_le hPlaces hFits
    rw [ofRate_of_pos hFast (hPos.trans_le h), hEq, Option.getD_some, Option.getD_some]
    omega

/-- Durations are in nanoseconds. Every rate has a period between a microsecond and the longest wait, so
that a worker's ticker always starts, and a rate that is no positive number has the period of a second.
The period of a positive rate is its inverse, rounded to a double and then to nanoseconds, and the
longest wait where that is no duration. A higher rate never has a longer period. -/
theorem period_follows_rate :
    (∀ rate : Binary64, shortest ≤ ofRate rate ∧ ofRate rate ≤ longest) ∧
    (∀ worker : Worker, 0 < worker.period) ∧
    (∀ rate : Binary64, rate.isFinite = false ∨ rate.value ≤ 0 → ofRate rate = second) ∧
    (∀ rate : Binary64, rate.isFinite = true → 0 < rate.value →
      ∃ seconds duration, Binary64.IsRounding (1 / rate.value) seconds ∧ Lasts seconds duration ∧
        ofRate rate = min (max (duration.getD longest) shortest) longest) ∧
    (∀ slow fast : Binary64, slow.isFinite = true → fast.isFinite = true → 0 < slow.value →
      slow.value ≤ fast.value → ofRate fast ≤ ofRate slow) := by
  refine ⟨?_, Worker.period_pos, ?_, ?_, ?_⟩
  · intro rate
    exact ⟨shortest_le_ofRate rate, ofRate_le_longest rate⟩
  · intro rate h
    rw [ofRate, if_neg]
    rw [Binary64.isPositive_iff]
    rintro ⟨hFinite, hPos⟩
    rcases h with hInfinite | hValue
    · rw [hFinite] at hInfinite
      cases hInfinite
    · exact absurd hPos (not_lt.2 hValue)
  · intro rate hFinite hPos
    have hInverse := Binary64.isRounding_inverse hPos
    exact ⟨rate.inverse, nanoseconds? rate.inverse, hInverse, lasts_nanoseconds? hInverse.not_negative,
      ofRate_of_pos hFinite hPos⟩
  · intro slow fast hSlow hFast hPos h
    exact ofRate_antitone hSlow hFast hPos h

def half : Binary64 := ⟨0x3FE0000000000000⟩
def four : Binary64 := ⟨0x4010000000000000⟩

theorem values_of_half_and_four : 0 < half.value ∧ half.value ≤ four.value := by
  rw [Binary64.value_pos_iff, ← Binary64.units_le_iff (by decide) (by decide)]
  decide +kernel

theorem periods_of_half_and_four :
    (Binary64.nan.isFinite = false ∧ ofRate Binary64.nan = second) ∧
    (half.isFinite = true ∧ four.isFinite = true ∧ 0 < half.value ∧ half.value ≤ four.value ∧
      ofRate four ≤ ofRate half) ∧
    (∃ seconds duration, Binary64.IsRounding (1 / half.value) seconds ∧ Lasts seconds duration ∧
      ofRate half = min (max (duration.getD longest) shortest) longest) ∧
    ofRate four = 250 * millisecond ∧ ofRate half = 2 * second := by
  obtain ⟨-, -, hFallback, hExact, hOrder⟩ := period_follows_rate
  obtain ⟨hPos, hLe⟩ := values_of_half_and_four
  refine ⟨⟨by decide, hFallback Binary64.nan (.inl (by decide))⟩, ?_, hExact half (by decide) hPos, ?_⟩
  · exact ⟨by decide, by decide, hPos, hLe, hOrder half four (by decide) (by decide) hPos hLe⟩
  · decide +kernel

end ApiLoad.Interval
