import ApiLoad.Number.Shortest

/-!
# How the digits of a double are laid out

Digits are written positionally while the exponent of the leading digit stays in the layout's
range, and otherwise as one digit, a fraction and a signed power of ten.
-/
set_option autoImplicit false

namespace ApiLoad

structure Layout where
  /-- The exponents of the leading digit that are written positionally, if they are bounded. -/
  plain : Option (Int × Int)
  pointZero : Bool
  plusSign : Bool
  tie : Tie
deriving Repr

namespace Layout

def zeros (n : Nat) : List Char := List.replicate n '0'

def positional (pointZero : Bool) (digits : List Char) (point : Int) : List Char :=
  let size : Int := digits.length
  if point ≤ 0 then '0' :: '.' :: (zeros (-point).toNat ++ digits)
  else if size ≤ point then
    digits ++ zeros (point - size).toNat ++ (if pointZero then ['.', '0'] else [])
  else digits.take point.toNat ++ '.' :: digits.drop point.toNat

def scientific (plusSign : Bool) (digits : List Char) (exponent : Int) : List Char :=
  let mantissa := match digits with
    | [] => []
    | [d] => [d]
    | d :: rest => d :: '.' :: rest
  let sign := if exponent < 0 then ['-'] else if plusSign then ['+'] else []
  mantissa ++ 'e' :: (sign ++ Decimal.digitsOf exponent.natAbs)

def layout (n : Layout) (d : Decimal) : List Char :=
  let digits := Decimal.digitsOf d.digits
  let point : Int := digits.length + d.exponent
  let isPlain := match n.plain with
    | none => true
    | some (least, limit) => least ≤ point - 1 && point - 1 < limit
  if d.digits = 0 then positional n.pointZero digits 1
  else if isPlain then positional n.pointZero digits point
  else scientific n.plusSign digits (point - 1)

def text (n : Layout) (x : Binary64) : String :=
  let magnitude := n.layout (Decimal.shortest n.tie x)
  String.ofList (if x.negative then '-' :: magnitude else magnitude)

def logged (n : Layout) (x : Binary64) : String :=
  if x.isNaN then "NaN"
  else if x.isInfinite then (if x.negative then "-inf" else "inf")
  else n.text x

end Layout

namespace Binary64

/-- The messages of log lines write a double positionally, whatever its size. -/
def logText (x : Binary64) : String := Layout.logged ⟨none, false, false, .up⟩ x

/-- The fields of log lines write a double positionally from `0.0001` to below `10 ^ 16`, and keep `.0`
when it is integral. -/
def fieldText (x : Binary64) : String := Layout.logged ⟨some (-4, 16), true, false, .up⟩ x

/-- The magnitude of a finite double rounded to `places` decimal places, a tie going to the even
neighbour. -/
def fixedText (places : Nat) (x : Binary64) : String :=
  let scaled := roundEven (x.units * Nat.pow 10 places) unitsPerOne
  let digits := Decimal.digitsOf scaled
  let padded := Layout.zeros (places + 1 - digits.length) ++ digits
  let body := Layout.positional false padded (padded.length - places : Nat)
  String.ofList (if x.negative then '-' :: body else body)

end Binary64
end ApiLoad
