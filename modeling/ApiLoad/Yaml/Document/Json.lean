import ApiLoad.Json.Printer
import ApiLoad.Yaml.Document

/-!
# Documents as JSON

A tag becomes an object of one field. Floats without a JSON text become null, but a key needs one:
only texts, booleans, integers and finite floats can be keys, and of equal keys the last counts.
-/
set_option autoImplicit false

namespace ApiLoad.Yaml

inductive KeyError
  | notText
  | notFinite
deriving DecidableEq, Repr

def KeyError.message : KeyError → String
  | .notText => "key must be a string"
  | .notFinite => "float key must be finite (got NaN or +/-inf)"

namespace Scalar

def toJson : Scalar → Json
  | .null => .null
  | .bool b => .bool b
  | .number (.integer n) => .number (.integer n)
  | .number (.float x) => if x.isFinite then .number (.float x) else .null
  | .string text => .string text

def keyText : Scalar → Except KeyError String
  | .null => .error .notText
  | .bool b => .ok (if b then "true" else "false")
  | .number (.integer n) => .ok (intText n)
  | .number (.float x) => if x.isFinite then .ok (Json.numberLayout.text x) else .error .notFinite
  | .string text => .ok text

def isBlank : Scalar → Bool
  | .null => true
  | .bool b => !b
  | .number n => n.isZero
  | .string text => text == ""

end Scalar

namespace Document

def keyText : Document → Except KeyError String
  | .scalar value => value.keyText
  | _ => .error .notText

mutual

def toJson : Document → Except KeyError Json
  | .scalar value => .ok value.toJson
  | .sequence items => do
    let items ← itemsToJson items
    pure (.array items)
  | .mapping entries => do
    let fields ← fieldsToJson entries
    pure (Json.ofFields fields)
  | .tagged name value => do
    let value ← toJson value
    pure (.object [("!" ++ name, value)])

def itemsToJson : List Document → Except KeyError (List Json)
  | [] => .ok []
  | item :: rest => do
    let item ← toJson item
    let rest ← itemsToJson rest
    pure (item :: rest)

def fieldsToJson : List (Document × Document) → Except KeyError (List (String × Json))
  | [] => .ok []
  | (key, value) :: rest => do
    let key ← keyText key
    let value ← toJson value
    let rest ← fieldsToJson rest
    pure ((key, value) :: rest)

end

/-- Null, false, zero, and empty texts and collections, under any tags. -/
def isBlank : Document → Bool
  | .scalar value => value.isBlank
  | .sequence items => items.isEmpty
  | .mapping entries => entries.isEmpty
  | .tagged _ value => isBlank value

end Document
end ApiLoad.Yaml
