import ApiLoad.Counter
import ApiLoad.Number.Decimal

/-!
# Reading numbers from settings

Naturals of 64 bits with an optional plus sign, and doubles, whose words may be written in any case.
-/
set_option autoImplicit false

namespace ApiLoad

def natural? (text : List Char) : Option Nat :=
  let digits := match text with
    | '+' :: rest => rest
    | _ => text
  if digits = [] ∨ !digits.all Char.isDigit ∨ Counter.limit ≤ Decimal.valueOf digits then none
  else some (Decimal.valueOf digits)

namespace Binary64

def splitSign : List Char → Bool × List Char
  | '-' :: rest => (true, rest)
  | '+' :: rest => (false, rest)
  | text => (false, text)

def read? (text : List Char) : Option Binary64 :=
  let (negative, rest) := splitSign text
  match String.ofList (rest.map Char.toLower) with
  | "inf" | "infinity" => some (.infinity negative)
  | "nan" => some .nan
  | _ => Decimal.double? text

end Binary64
end ApiLoad
