import ApiLoad.Number.Decimal

/-!
# The fewest digits that read back

The reals that round to a double form an interval, its ends included when the significand is even.
Among the decimals in it the one with the fewest digits is taken, and of those the closest.
-/
set_option autoImplicit false

namespace ApiLoad

inductive Tie
  | even
  | up
deriving DecidableEq, Repr

namespace Decimal

def compareQuarters (d : Decimal) (quarters : Nat) : Ordering :=
  compare (d.digits * Nat.pow 10 d.exponent.toNat * (4 * Binary64.unitsPerOne))
    (quarters * Nat.pow 10 (-d.exponent).toNat)

/-- `d` lies among the reals that round to the magnitude of `x`. Below a power of two the gap to the
next double is half as wide. -/
def readsBack (x : Binary64) (d : Decimal) : Bool :=
  let below := if x.fraction = 0 ∧ 1 < x.exponent then x.ulp else 2 * x.ulp
  let lower := d.compareQuarters (4 * x.units - below)
  let upper := d.compareQuarters (4 * x.units + 2 * x.ulp)
  let closed := x.significand % 2 == 0
  (lower == .gt || closed && lower == .eq) && (upper == .lt || closed && upper == .eq)

def scaled (x : Binary64) (place : Int) : Nat × Nat :=
  (x.units * Nat.pow 10 (-place).toNat, Binary64.unitsPerOne * Nat.pow 10 place.toNat)

/-- The number of places before the decimal point: the least `k` with the magnitude below `10 ^ k`,
found next to its estimate from the binary logarithm. -/
def pointPlace (x : Binary64) : Int :=
  let estimate := ((x.units.log2 : Int) - 1074) * 30103 / 100000
  let below (k : Int) : Bool := let (n, d) := scaled x k; n < d
  ([estimate - 1, estimate, estimate + 1].find? below).getD (estimate + 2)

def onGrid? (tie : Tie) (x : Binary64) (place : Int) : Option Decimal :=
  let (n, d) := scaled x place
  let low : Decimal := ⟨n / d, place⟩
  let high : Decimal := ⟨n / d + 1, place⟩
  match readsBack x low, readsBack x high with
  | false, false => none
  | true, false => some low
  | false, true => some high
  | true, true =>
    match compare (2 * (n % d)) d, tie with
    | .lt, _ => some low
    | .gt, _ => some high
    | .eq, .up => some high
    | .eq, .even => some (if low.digits % 2 = 0 then low else high)

def strip (d : Decimal) : Decimal :=
  if h : d.digits ≠ 0 ∧ d.digits % 10 = 0 then strip ⟨d.digits / 10, d.exponent + 1⟩ else d
termination_by d.digits
decreasing_by omega

/-- The shortest decimal that reads back as the magnitude of `x`. Seventeen digits always do; the
exact value stands behind the search, which never falls through to it. -/
def shortest (tie : Tie) (x : Binary64) : Decimal :=
  if x.units = 0 then ⟨0, 0⟩
  else
    let point := pointPlace x
    let found := (List.range 17).findSome? fun (n : Nat) => onGrid? tie x (point - 1 - n)
    (found.getD ⟨x.units * Nat.pow 5 1074, -1074⟩).strip

end Decimal
end ApiLoad
