import ApiLoad.Number.Binary64

/-!
# Decimal numerals

Reading: an optional sign, digits with at most one point, at least one digit in all, and an optional
power of ten, rounded once to the nearest double. Writing: the digits of a natural in base ten.
-/
set_option autoImplicit false

namespace ApiLoad

/-- `digits * 10 ^ exponent`. -/
structure Decimal where
  digits : Nat
  exponent : Int
deriving DecidableEq, Repr, Inhabited

namespace Decimal

def digitValue (c : Char) : Nat := c.toNat - '0'.toNat
def digitChar (d : Nat) : Char := Char.ofNat ('0'.toNat + d)

def valueOf (digits : List Char) : Nat :=
  digits.foldl (fun n c => 10 * n + digitValue c) 0

def digitsOf (n : Nat) : List Char :=
  if n < 10 then [digitChar n] else digitsOf (n / 10) ++ [digitChar (n % 10)]
termination_by n

/-- The double nearest to a decimal. A power of ten that puts the value far beyond the range of
doubles is not computed. -/
def toBinary64 (negative : Bool) (d : Decimal) : Binary64 :=
  let magnitude : Int := (digitsOf d.digits).length + d.exponent
  if d.digits = 0 ∨ magnitude < -330 then .ofMagnitude negative 0
  else if 310 < magnitude then .infinity negative
  else .ofRatio negative (d.digits * Nat.pow 10 d.exponent.toNat) (Nat.pow 10 (-d.exponent).toNat)

def exponentOf? (text : List Char) : Option Int :=
  let number (digits : List Char) : Option Nat :=
    if digits ≠ [] ∧ digits.all Char.isDigit then some (valueOf digits) else none
  match text with
  | '-' :: rest => (number rest).map fun n => -(n : Int)
  | '+' :: rest => (number rest).map fun n => (n : Int)
  | _ => (number text).map fun n => (n : Int)

def unsigned? (text : List Char) : Option Decimal :=
  let whole := text.takeWhile Char.isDigit
  let rest := text.dropWhile Char.isDigit
  let (places, rest) := match rest with
    | '.' :: rest => (rest.takeWhile Char.isDigit, rest.dropWhile Char.isDigit)
    | _ => ([], rest)
  let exponent? : Option Int := match rest with
    | [] => some 0
    | 'e' :: rest | 'E' :: rest => exponentOf? rest
    | _ => none
  if whole = [] ∧ places = [] then none
  else exponent?.map fun e => ⟨valueOf (whole ++ places), e - places.length⟩

def double? (text : List Char) : Option Binary64 :=
  match text with
  | '-' :: rest => (unsigned? rest).map (toBinary64 true)
  | '+' :: rest => (unsigned? rest).map (toBinary64 false)
  | _ => (unsigned? text).map (toBinary64 false)

end Decimal

def natText (n : Nat) : String := String.ofList (Decimal.digitsOf n)

def intText (n : Int) : String := if n < 0 then "-" ++ natText n.natAbs else natText n.natAbs

end ApiLoad
