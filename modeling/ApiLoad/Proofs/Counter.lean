import ApiLoad.Counter
import Mathlib.Algebra.GroupWithZero.Nat

/-! # Sums of counters are exact or refused -/
set_option autoImplicit false

namespace ApiLoad.Counter

theorem foldlM_add?_eq (counts : List Nat) {total : Nat} (h : total < limit) :
    counts.foldlM add? total =
      if total + counts.sum < limit then some (total + counts.sum) else none := by
  induction counts generalizing total with
  | nil => simp [h]
  | cons count counts ih =>
    rw [List.foldlM_cons, List.sum_cons, ← Nat.add_assoc]
    by_cases hFits : total + count < limit
    · simp only [add?, hFits, if_true]
      exact ih hFits
    · rw [if_neg (by omega), add?, if_neg hFits]
      rfl

/-- A sum is refused exactly when it does not fit, whatever the order of its counters. -/
theorem sum?_eq (counts : List Nat) :
    sum? counts = if counts.sum < limit then some counts.sum else none := by
  simpa [sum?] using foldlM_add?_eq counts (show 0 < limit by decide)

end ApiLoad.Counter
