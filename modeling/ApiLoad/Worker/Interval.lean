import ApiLoad.Counter
import ApiLoad.Number.Binary64

/-!
# The time between requests

A rate in requests per second becomes a period in nanoseconds: the inverse of the rate, rounded to a
double and then to the nearest nanosecond, and kept between a microsecond and the longest wait.
-/
set_option autoImplicit false

namespace ApiLoad.Interval

def second : Nat := 1000000000
def millisecond : Nat := 1000000
def shortest : Nat := 1000

/-- Waits are bounded so that deadlines stay representable. -/
def longest : Nat := 0xFFFFFFFF * second

def nanoseconds? (seconds : Binary64) : Option Nat :=
  let rounded := roundEven (seconds.units * second) Binary64.unitsPerOne
  if seconds.isFinite ∧ rounded < Counter.limit * second then some rounded else none

/-- The period of a rate. Rates that are no positive number fall back to one second. -/
def ofRate (rate : Binary64) : Nat :=
  if rate.isPositive then min (max ((nanoseconds? rate.inverse).getD longest) shortest) longest
  else second

end ApiLoad.Interval
