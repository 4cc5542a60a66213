import ApiLoad.Number.Layout

/-!
# JSON values

The fields of an object are kept in ascending order of their names, each name once, so that equal
objects are equal lists.
-/
set_option autoImplicit false

namespace ApiLoad

/-- A number is an integer of 64 bits, signed or unsigned, or a double; `1` and `1.0` are different. -/
inductive Number
  | integer (n : Int)
  | float (x : Binary64)
deriving DecidableEq, Repr, Inhabited

namespace Number

def isZero : Number → Bool
  | .integer n => n == 0
  | .float x => x.isZero

def inRange (n : Int) : Bool :=
  -0x8000000000000000 ≤ n && n < 0x10000000000000000

end Number

inductive Json
  | null
  | bool (b : Bool)
  | number (n : Number)
  | string (text : String)
  | array (items : List Json)
  | object (fields : List (String × Json))
deriving BEq, Repr, Inhabited

namespace Json

/-- Writes a field at its place, over the field of that name if there is one. -/
def insertField (name : String) (value : Json) : List (String × Json) → List (String × Json)
  | [] => [(name, value)]
  | (key, old) :: rest =>
    if name < key then (name, value) :: (key, old) :: rest
    else if name = key then (name, value) :: rest
    else (key, old) :: insertField name value rest

def field? (fields : List (String × Json)) (name : String) : Option Json :=
  fields.lookup name

/-- The object of the given fields, a repeated name keeping its last value. -/
def ofFields (fields : List (String × Json)) : Json :=
  .object (fields.foldl (fun done (name, value) => insertField name value done) [])

def get? (name : String) : Json → Option Json
  | .object fields => field? fields name
  | _ => none

def isScalar : Json → Bool
  | .array _ | .object _ => false
  | _ => true

def text? : Json → Option String
  | .string text => some text
  | _ => none

def ofNat (n : Nat) : Json := .number (.integer n)
def ofInt (n : Int) : Json := .number (.integer n)

mutual

/-- The number of arrays and objects around the innermost value, itself included. -/
def depth : Json → Nat
  | .array items => depthOfItems items + 1
  | .object fields => depthOfFields fields + 1
  | _ => 0

def depthOfItems : List Json → Nat
  | [] => 0
  | item :: rest => max (depth item) (depthOfItems rest)

def depthOfFields : List (String × Json) → Nat
  | [] => 0
  | (_, value) :: rest => max (depth value) (depthOfFields rest)

end

end Json
end ApiLoad
