/-!
# Log lines

A line has a level, a message and named fields with their text.
-/
set_option autoImplicit false

namespace ApiLoad.Log

inductive Level
  | debug
  | info
  | warn
  | error
deriving DecidableEq, Repr

def Level.name : Level → String
  | .debug => "DEBUG"
  | .info => "INFO"
  | .warn => "WARN"
  | .error => "ERROR"

def Level.urgency : Level → Nat
  | .debug => 1
  | .info => 2
  | .warn => 3
  | .error => 4

structure Entry where
  level : Level
  message : String
  fields : List (String × String) := []
deriving DecidableEq, Repr

def Entry.text (e : Entry) : String :=
  " ".intercalate (e.level.name :: e.message :: e.fields.map fun (name, value) => name ++ "=" ++ value)

/-- The least urgent level that is written, or `none` if nothing is. -/
abbrev Threshold := Option Level

/-- A threshold by its name in any case or by its number. An empty text leaves the errors. -/
def Threshold.read? (text : String) : Option Threshold :=
  match text.toLower with
  | "off" | "0" => some none
  | "" | "error" | "1" => some (some .error)
  | "warn" | "2" => some (some .warn)
  | "info" | "3" => some (some .info)
  | "debug" | "4" | "trace" | "5" => some (some .debug)
  | _ => none

def Entry.passes (threshold : Threshold) (e : Entry) : Bool :=
  (threshold.map fun least => decide (least.urgency ≤ e.level.urgency)).getD false

def info (message : String) : Entry := ⟨.info, message, []⟩
def warn (message : String) : Entry := ⟨.warn, message, []⟩
def error (message : String) : Entry := ⟨.error, message, []⟩

end ApiLoad.Log
