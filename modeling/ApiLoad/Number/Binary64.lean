/-!
# Doubles as exact counts of the least positive double

A finite double is a sign and a number of units, one unit being `2 ^ -1074`. All arithmetic here is
exact arithmetic on naturals followed by one rounding to nearest, ties to even, so every result is a
function of the bits alone.
-/
set_option autoImplicit false

namespace ApiLoad

/-- The quotient `num / den` rounded to the nearest natural, a half going to the even neighbour. -/
def roundEven (num den : Nat) : Nat :=
  let q := num / den
  let r := num % den
  if 2 * r < den then q
  else if den < 2 * r then q + 1
  else q + q % 2

structure Binary64 where
  bits : UInt64
deriving DecidableEq, Repr, Inhabited

namespace Binary64

def signWeight : Nat := 0x8000000000000000

/-- The weight of the lowest bit of the exponent, and of the leading bit of a normal significand, which
is not written. -/
def exponentWeight : Nat := 0x10000000000000

def negative (x : Binary64) : Bool := signWeight ≤ x.bits.toNat
def exponent (x : Binary64) : Nat := x.bits.toNat / exponentWeight % 2048
def fraction (x : Binary64) : Nat := x.bits.toNat % exponentWeight

def isFinite (x : Binary64) : Bool := x.exponent != 2047
def isNaN (x : Binary64) : Bool := x.exponent == 2047 && x.fraction != 0
def isInfinite (x : Binary64) : Bool := x.exponent == 2047 && x.fraction == 0

def significand (x : Binary64) : Nat :=
  if x.exponent = 0 then x.fraction else exponentWeight + x.fraction

def ulp (x : Binary64) : Nat := Nat.pow 2 (x.exponent - 1)

/-- The magnitude of a finite double, in units of `2 ^ -1074`. -/
def units (x : Binary64) : Nat := x.significand * x.ulp

def isZero (x : Binary64) : Bool := x.isFinite && x.units == 0

def isPositive (x : Binary64) : Bool := x.isFinite && !x.negative && x.units != 0

def unitsPerOne : Nat := Nat.pow 2 1074

def signBit (negative : Bool) : Nat := if negative then signWeight else 0

def infinityBits : Nat := 2047 * exponentWeight

def ofMagnitude (negative : Bool) (magnitude : Nat) : Binary64 :=
  ⟨UInt64.ofNat (signBit negative + magnitude)⟩

def infinity (negative : Bool) : Binary64 := ofMagnitude negative infinityBits
def nan : Binary64 := ofMagnitude false (infinityBits + exponentWeight / 2)
def zero : Binary64 := ofMagnitude false 0

/-- The magnitude bits of the double nearest to `num / den` units. The rounded significand is added
to the binade's number, so a significand that rounds up to the next power of two carries into the
next binade. -/
def nearestMagnitude (num den : Nat) : Nat :=
  let binade := Nat.log2 (num / den) - 52
  min infinityBits (binade * exponentWeight + roundEven num (den * Nat.pow 2 binade))

def ofRatio (negative : Bool) (num den : Nat) : Binary64 :=
  ofMagnitude negative (nearestMagnitude (num * unitsPerOne) den)

def ofNat (n : Nat) : Binary64 := ofRatio false n 1

def inverse (x : Binary64) : Binary64 := ofRatio false unitsPerOne x.units

def addPositive (x y : Binary64) : Binary64 := ofRatio false (x.units + y.units) unitsPerOne

def mulPositive (x y : Binary64) : Binary64 :=
  ofRatio false (x.units * y.units) (unitsPerOne * unitsPerOne)

def divPositive (x y : Binary64) : Binary64 := ofRatio false x.units y.units

def negate (x : Binary64) : Binary64 := ofMagnitude (!x.negative) (x.bits.toNat % signWeight)

/-- Equality as numbers: zeros of both signs are equal, and so are any two values that are not a
number. -/
def sameNumber (x y : Binary64) : Bool :=
  if x.isNaN || y.isNaN then x.isNaN && y.isNaN
  else x.bits == y.bits || (x.isZero && y.isZero)

end Binary64
end ApiLoad
