import ApiLoad.Worker.Interval

/-!
# Tickers

A ticker is due at its deadline. A tick taken at most five milliseconds late leaves the deadlines on
their grid; one taken later starts a new grid at its own moment. Times are in nanoseconds.
-/
set_option autoImplicit false

namespace ApiLoad

structure Ticker where
  period : Nat
  deadline : Nat
deriving DecidableEq, Repr, Inhabited

namespace Ticker

/-- How late a tick may be without moving the grid. -/
def tolerance : Nat := 5 * Interval.millisecond

def start (period now : Nat) : Ticker := ⟨period, now⟩

def isDue (t : Ticker) (now : Nat) : Bool := t.deadline ≤ now

def take (t : Ticker) (now : Nat) : Ticker :=
  let base := if t.deadline + tolerance < now then now else t.deadline
  { t with deadline := base + t.period }

end Ticker
end ApiLoad
