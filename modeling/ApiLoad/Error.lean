import ApiLoad.Text.Quoted

/-!
# Fatal errors

What ends a run before it starts, with its message.
-/
set_option autoImplicit false

namespace ApiLoad

inductive Unreadable
  | missing
  | directory
  | notUtf8
  | other (reason : String)
deriving DecidableEq, Repr

def Unreadable.message : Unreadable → String
  | .missing => "No such file or directory (os error 2)"
  | .directory => "Is a directory (os error 21)"
  | .notUtf8 => "stream did not contain valid UTF-8"
  | .other reason => reason

/-- The reason with its kind and, where the system gave one, its code. -/
def Unreadable.shown : Unreadable → String
  | .missing => "Os \x7b code: 2, kind: NotFound, message: \"No such file or directory\" \x7d"
  | .directory => "Os \x7b code: 21, kind: IsADirectory, message: \"Is a directory\" \x7d"
  | .notUtf8 =>
    "Error \x7b kind: InvalidData, message: \"stream did not contain valid UTF-8\" \x7d"
  | .other reason => "Error \x7b kind: Other, message: " ++ Text.quoted reason ++ " \x7d"

inductive Error
  | unreadable (path : String) (reason : Unreadable)
  | malformed (detail : String)
  | noExamples
  | configuration (detail : String)
  | client (detail : String)
  | internal (detail : String)
deriving DecidableEq, Repr

namespace Error

def message : Error → String
  | .unreadable path reason => "failed to read API description " ++ path ++ ": " ++ reason.message
  | .malformed detail => "failed to parse API description: " ++ detail
  | .noExamples => "no POST operations with JSON examples found in API description"
  | .configuration detail => "invalid configuration: " ++ detail
  | .client detail => "http client: " ++ detail
  | .internal detail => "internal: " ++ detail

def shown : Error → String
  | .unreadable path reason =>
    "Io \x7b path: " ++ Text.quoted path ++ ", source: " ++ reason.shown ++ " \x7d"
  | .malformed detail => "Parse(" ++ Text.quoted detail ++ ")"
  | .noExamples => "NoExamples"
  | .configuration detail => "Config(" ++ Text.quoted detail ++ ")"
  | .client detail => "Http(" ++ Text.quoted detail ++ ")"
  | .internal detail => "Internal(" ++ Text.quoted detail ++ ")"

def source? : Error → Option String
  | .unreadable _ reason => some reason.message
  | _ => none

end Error
end ApiLoad
