import ApiLoad.Counter
import ApiLoad.Json.Basic
import ApiLoad.Text.Hex

/-!
# Reading JSON text

The strict grammar: one value with blanks around it, no byte order mark, no raw control character in
a string, no half of a surrogate pair on its own, no number beyond the range of doubles. An integer
that 64 bits cannot hold is read as a double, and so is minus zero. A double is read from the digits that
64 bits hold and scaled by powers of ten, each step rounding, so its last bits may be wrong.
-/
set_option autoImplicit false

namespace ApiLoad.Json.Reader

def isBlank (c : Char) : Bool := c == ' ' || c == '\n' || c == '\r' || c == '\t'

def skipBlanks (text : List Char) : List Char := text.dropWhile isBlank

def escape? : Char → Option Char
  | '"' => some '"'
  | '\\' => some '\\'
  | '/' => some '/'
  | 'b' => some '\x08'
  | 'f' => some '\x0c'
  | 'n' => some '\n'
  | 'r' => some '\r'
  | 't' => some '\t'
  | _ => none

def unitChar? (unit : Nat) : Option Char :=
  if 0xD800 ≤ unit ∧ unit < 0xE000 then none else some (Char.ofNat unit)

def pairChar? (high low : Nat) : Option Char :=
  if 0xD800 ≤ high ∧ high < 0xDC00 ∧ 0xDC00 ≤ low ∧ low < 0xE000 then
    some (Char.ofNat (0x10000 + (high - 0xD800) * 0x400 + (low - 0xDC00)))
  else none

def string? : List Char → Option (List Char × List Char)
  | '"' :: rest => some ([], rest)
  | '\\' :: 'u' :: a :: b :: c :: d :: rest => do
    let unit ← Text.Hex.number? [a, b, c, d]
    match unitChar? unit with
    | some char => do
      let (text, rest) ← string? rest
      pure (char :: text, rest)
    | none =>
      match rest with
      | '\\' :: 'u' :: e :: f :: g :: h :: rest => do
        let char ← pairChar? unit (← Text.Hex.number? [e, f, g, h])
        let (text, rest) ← string? rest
        pure (char :: text, rest)
      | _ => none
  | '\\' :: c :: rest => do
    let char ← escape? c
    let (text, rest) ← string? rest
    pure (char :: text, rest)
  | c :: rest =>
    if c.toNat < 0x20 then none
    else do
      let (text, rest) ← string? rest
      pure (c :: text, rest)
  | [] => none

def digits? (text : List Char) : Option (List Char × List Char) :=
  let digits := text.takeWhile Char.isDigit
  if digits = [] then none else some (digits, text.dropWhile Char.isDigit)

/-- The digits before the point: a zero stands alone. -/
def whole? : List Char → Option (List Char × List Char)
  | '0' :: rest => if (rest.head?.map Char.isDigit).getD false then none else some (['0'], rest)
  | text => digits? text

def fraction? : List Char → Option (List Char × List Char)
  | '.' :: rest => digits? rest
  | text => some ([], text)

def exponent? : List Char → Option (Option Int × List Char)
  | c :: rest =>
    if c = 'e' ∨ c = 'E' then
      let (negative, rest) := match rest with
        | '-' :: rest => (true, rest)
        | '+' :: rest => (false, rest)
        | rest => (false, rest)
      (digits? rest).map fun (digits, rest) =>
        let n : Int := Decimal.valueOf digits
        (some (if negative then -n else n), rest)
    else some (none, c :: rest)
  | [] => some (none, [])

/-- Appends digits to a number while it stays below 64 bits, and gives those that are left. -/
def absorb (n : Nat) : List Char → Nat × List Char
  | [] => (n, [])
  | digit :: rest =>
    let longer := 10 * n + Decimal.digitValue digit
    if longer < Counter.limit then absorb longer rest else (n, digit :: rest)

/-- A numeral with the leading digits that 64 bits hold. Of the others those before the point count as
zeros. -/
def leading (whole fraction : List Char) (power : Int) : Decimal :=
  let (n, zeros) := absorb 0 whole
  let (n, unread) := absorb n fraction
  ⟨n, power + zeros.length - (fraction.length - unread.length : Nat)⟩

def maxPower : Nat := 308

def tenTo (power : Nat) : Binary64 := .ofNat (Nat.pow 10 power)

def shrink (x : Binary64) (power : Nat) : Binary64 :=
  if power ≤ maxPower then x.divPositive (tenTo power)
  else if x.isZero then x
  else shrink (x.divPositive (tenTo maxPower)) (power - maxPower)
termination_by power
decreasing_by
  simp only [maxPower] at *
  omega

/-- The double of a decimal, rounded before and after each power of ten. It need not be the nearest
one. -/
def double? (d : Decimal) : Option Binary64 :=
  let x := Binary64.ofNat d.digits
  if d.digits = 0 then some x
  else match d.exponent with
    | .negSucc n => some (shrink x (n + 1))
    | .ofNat n =>
      if maxPower < n then none else (some (x.mulPositive (tenTo n))).filter Binary64.isFinite

def unsigned? (negative : Bool) (text : List Char) : Option (Number × List Char) := do
  let (whole, text) ← whole? text
  let (fraction, text) ← fraction? text
  let (power, text) ← exponent? text
  let digits := Decimal.valueOf (whole ++ fraction)
  let value : Int := if negative then -(digits : Int) else digits
  if fraction = [] ∧ power = none ∧ Number.inRange value ∧ !(negative && digits == 0) then
    pure (.integer value, text)
  else do
    let x ← double? (leading whole fraction (power.getD 0))
    pure (.float (if negative then x.negate else x), text)

def number? : List Char → Option (Number × List Char)
  | '-' :: rest => unsigned? true rest
  | text => unsigned? false text

mutual

/-- The value at the start of a text, and what follows it. Arrays and objects lie in each other at most
`depth` deep. -/
def value? : Nat → Nat → List Char → Option (Json × List Char)
  | 0, _, _ => none
  | fuel + 1, depth, text =>
    match skipBlanks text with
    | 'n' :: 'u' :: 'l' :: 'l' :: rest => some (.null, rest)
    | 't' :: 'r' :: 'u' :: 'e' :: rest => some (.bool true, rest)
    | 'f' :: 'a' :: 'l' :: 's' :: 'e' :: rest => some (.bool false, rest)
    | '"' :: rest => (string? rest).map fun (text, rest) => (.string (String.ofList text), rest)
    | '[' :: rest =>
      match depth, skipBlanks rest with
      | 0, _ => none
      | _ + 1, ']' :: rest => some (.array [], rest)
      | depth + 1, rest => (items? fuel depth rest).map fun (items, rest) => (.array items, rest)
    | '\x7b' :: rest =>
      match depth, skipBlanks rest with
      | 0, _ => none
      | _ + 1, '\x7d' :: rest => some (.object [], rest)
      | depth + 1, rest => (fields? fuel depth rest).map fun (fields, rest) => (ofFields fields, rest)
    | rest => (number? rest).map fun (n, rest) => (.number n, rest)

def items? : Nat → Nat → List Char → Option (List Json × List Char)
  | 0, _, _ => none
  | fuel + 1, depth, text => do
    let (item, rest) ← value? fuel depth text
    match skipBlanks rest with
    | ',' :: rest => do
      let (items, rest) ← items? fuel depth rest
      pure (item :: items, rest)
    | ']' :: rest => pure ([item], rest)
    | _ => none

def fields? : Nat → Nat → List Char → Option (List (String × Json) × List Char)
  | 0, _, _ => none
  | fuel + 1, depth, text => do
    let '"' :: rest := skipBlanks text | none
    let (name, rest) ← string? rest
    let ':' :: rest := skipBlanks rest | none
    let (value, rest) ← value? fuel depth rest
    let field := (String.ofList name, value)
    match skipBlanks rest with
    | ',' :: rest => do
      let (fields, rest) ← fields? fuel depth rest
      pure (field :: fields, rest)
    | '\x7d' :: rest => pure ([field], rest)
    | _ => none

end

end Reader

/-- The value that a text spells, if it is JSON and nowhere deeper than `depth`. Each call of the reader
takes a character or starts a value, so twice the length of the text is fuel enough. -/
def parseWithin? (depth : Nat) (text : String) : Option Json :=
  match Reader.value? (2 * text.length + 2) depth text.toList with
  | some (value, rest) => if Reader.skipBlanks rest = [] then some value else none
  | none => none

/-- The value that a text spells. None is deeper than the text is long. -/
def parse? (text : String) : Option Json := parseWithin? text.length text

end ApiLoad.Json
