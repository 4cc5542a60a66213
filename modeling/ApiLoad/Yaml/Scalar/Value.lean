import ApiLoad.Json.Basic
import ApiLoad.Text.Hex
import ApiLoad.Yaml.Tag

/-!
# What a scalar means

A plain scalar without a tag is null, a boolean, an integer, a float or a text, the first that fits. A
tag of the schema fixes the kind, and then a scalar that does not fit is refused.
-/
set_option autoImplicit false

namespace ApiLoad.Yaml

inductive Scalar
  | null
  | bool (b : Bool)
  | number (n : Number)
  | string (text : String)
deriving BEq, Repr, Inhabited

namespace Scalar

def isNull (text : String) : Bool := ["null", "Null", "NULL", "~"].contains text

def bool? (text : String) : Option Bool :=
  if ["true", "True", "TRUE"].contains text then some true
  else if ["false", "False", "FALSE"].contains text then some false
  else none

/-- Digits alone with a zero before others, which are no number. -/
def isPadded (text : List Char) : Bool :=
  let digits := match text with
    | '-' :: rest | '+' :: rest => rest
    | _ => text
  match digits with
  | '0' :: d :: rest => (d :: rest).all Char.isDigit
  | _ => false

def digitsIn? (base : Nat) (digits : List Char) : Option Nat :=
  if digits = [] then none else Text.Hex.inBase? base digits

def magnitude? (text : List Char) : Option Nat :=
  match text with
  | '0' :: 'x' :: digits => digitsIn? 16 digits
  | '0' :: 'o' :: digits => digitsIn? 8 digits
  | '0' :: 'b' :: digits => digitsIn? 2 digits
  | digits => if isPadded digits then none else digitsIn? 10 digits

def integer? (text : List Char) : Option Int :=
  match text with
  | '-' :: rest => (magnitude? rest).map fun n => -(n : Int)
  | '+' :: rest => (magnitude? rest).map fun n => (n : Int)
  | _ => (magnitude? text).map fun n => (n : Int)

/-- The integers of 128 bits, signed or unsigned. -/
def inWideRange (n : Int) : Bool :=
  -0x80000000000000000000000000000000 ≤ n && n < 0x100000000000000000000000000000000

/-- An integer is refused when it needs more than 64 bits but no more than 128. -/
inductive IntegerReading
  | fits (n : Int)
  | tooWide
  | other

def readInteger (text : String) : IntegerReading :=
  match integer? text.toList with
  | none => .other
  | some n =>
    if Number.inRange n then .fits n
    else if inWideRange n then .tooWide
    else .other

def float? (text : String) : Option Binary64 :=
  if [".inf", ".Inf", ".INF", "+.inf", "+.Inf", "+.INF"].contains text then some (.infinity false)
  else if ["-.inf", "-.Inf", "-.INF"].contains text then some (.infinity true)
  else if [".nan", ".NaN", ".NAN"].contains text then some .nan
  else (Decimal.double? text.toList).filter Binary64.isFinite

def ofPlain? (text : String) : Option Scalar :=
  if text = "" ∨ isNull text then some .null
  else match bool? text with
    | some b => some (.bool b)
    | none =>
      match readInteger text with
      | .fits n => some (.number (.integer n))
      | .tooWide => none
      | .other =>
        match (if isPadded text.toList then none else float? text) with
        | some x => some (.number (.float x))
        | none => some (.string text)

def ofUntagged? (plain : Bool) (text : String) : Option Scalar :=
  if plain then ofPlain? text else some (.string text)

/-- A scalar under a tag of the schema. Other tags make a text of it. -/
def ofTagged? (tag : Tag) (text : String) : Option Scalar :=
  match tag.text? with
  | some "tag:yaml.org,2002:bool" => (bool? text).map .bool
  | some "tag:yaml.org,2002:int" =>
    match readInteger text with
    | .fits n => some (.number (.integer n))
    | _ => none
  | some "tag:yaml.org,2002:float" => (float? text).map fun x => .number (.float x)
  | some "tag:yaml.org,2002:null" => if isNull text then some .null else none
  | _ => some (.string text)

end Scalar
end ApiLoad.Yaml
