import ApiLoad.Catalog.Basic
import ApiLoad.Log
import ApiLoad.Yaml.Document.Json

/-!
# Examples of a description

Every POST operation under `paths` is looked at in the order of the description. One whose request
body has a JSON example that is not blank gives an entry of the catalog; any other gives a log line
and stops nothing.
-/
set_option autoImplicit false

namespace ApiLoad

open Yaml (Document KeyError)

structure Posting where
  path : String
  operation : Document
deriving Repr

namespace Posting

def isPost (method : Document) : Bool :=
  (method.text?.map fun name => name.map Char.toLower == "post").getD false

def ofPath : Document × Document → List Posting
  | (path, methods) =>
    match path.text?, methods.entries? with
    | some path, some methods =>
      (methods.filter fun (method, _) => isPost method).map fun (_, operation) => ⟨path, operation⟩
    | _, _ => []

def all (description : Document) : List Posting :=
  (((description.get? "paths").bind Document.entries?).getD []).flatMap ofPath

def example? (posting : Posting) : Option Document := do
  let body ← posting.operation.get? "requestBody"
  let content ← body.get? "content"
  let media ← content.get? "application/json"
  media.get? "example"

inductive Finding
  | usable (entry : Example)
  | absent (path : String)
  | unrepresentable (path : String) (reason : KeyError)
deriving Repr

/-- The example of an operation, unless it is missing, blank or has no JSON form. -/
def look (posting : Posting) : Finding :=
  match posting.example?.filter (!·.isBlank) with
  | none => .absent posting.path
  | some shown =>
    match shown.toJson with
    | .ok template => .usable ⟨posting.path, template⟩
    | .error reason => .unrepresentable posting.path reason

namespace Finding

def entry? : Finding → Option Example
  | .usable entry => some entry
  | _ => none

def log? : Finding → Option Log.Entry
  | .usable _ => none
  | .absent path => some ⟨.debug, "POST " ++ path ++ " has no usable JSON example, skipping", []⟩
  | .unrepresentable path reason =>
    some (Log.warn ("POST " ++ path ++ " example is not representable as JSON: " ++ reason.message))

end Finding
end Posting

def extract (description : Document) : List Example × List Log.Entry :=
  let findings := (Posting.all description).map Posting.look
  (findings.filterMap Posting.Finding.entry?, findings.filterMap Posting.Finding.log?)

end ApiLoad
