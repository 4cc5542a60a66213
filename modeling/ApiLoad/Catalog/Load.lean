import ApiLoad.Catalog.Extract
import ApiLoad.Text.Utf8

/-!
# Loading a description

The bytes of a file become a catalog, or the first stage that fails gives the error: reading, decoding,
parsing, and the lack of any example.
-/
set_option autoImplicit false

namespace ApiLoad

inductive File
  | missing
  | directory
  | bytes (content : List UInt8)
deriving Repr

namespace File

def text : File → Except Unreadable String
  | .missing => .error .missing
  | .directory => .error .directory
  | .bytes content =>
    match Text.Utf8.decode? content with
    | some text => .ok text
    | none => .error .notUtf8

/-- The document in a file. Of a text that is none, `complaint` tells what is wrong with it. -/
def description (complaint : String → String) (path : String) (file : File) :
    Except Error Yaml.Document :=
  match file.text with
  | .error reason => .error (.unreadable path reason)
  | .ok text =>
    match Yaml.Document.parse? text with
    | some description => .ok description
    | none => .error (.malformed (complaint text))

end File

def Catalog.load (complaint : String → String) (path : String) (file : File) :
    Except Error Catalog × List Log.Entry :=
  match file.description complaint path with
  | .error e => (.error e, [])
  | .ok description =>
    let (examples, log) := extract description
    (Catalog.ofExamples examples, log)

end ApiLoad
