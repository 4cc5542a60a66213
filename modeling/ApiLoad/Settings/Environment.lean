import ApiLoad.Log
import ApiLoad.Number.Layout
import ApiLoad.Number.Reading
import ApiLoad.Settings.Basic
import ApiLoad.Text.Quoted
import ApiLoad.Text.Utf8

/-!
# Settings from the environment

Each setting has a variable of its own. Texts are taken as they are. A number that does not read leaves
the default and a warning.
-/
set_option autoImplicit false

namespace ApiLoad

abbrev Environment := List (String × String)

namespace Environment

structure Reading (α : Type) where
  value : α
  warnings : List Log.Entry

def names : List String :=
  ["TRAFFIC_OPENAPI", "TRAFFIC_BASE_URL", "TRAFFIC_WORKERS", "TRAFFIC_RATE", "TRAFFIC_RPC_URL",
    "TRAFFIC_RPC_WORKERS", "TRAFFIC_RPC_RATE", "TRAFFIC_TIMEOUT_SECS"]

/-- The value that a block of entries `name=value` gives to a variable. -/
def valueIn? (entries : List (List UInt8)) (name : String) : Option (List UInt8) :=
  entries.findSome? ((name ++ "=").toUTF8.data.toList.isPrefixOf? ·)

/-- The variables of a system by their values. A value that is not UTF-8 counts as none. -/
def ofSystem (names : List String) (value? : String → Option (List UInt8)) : Environment :=
  names.filterMap fun name => ((value? name).bind Text.Utf8.decode?).map fun text => (name, text)

def text (env : Environment) (name fallback : String) : String := (env.lookup name).getD fallback

def warning (name raw shown : String) : Log.Entry :=
  Log.warn (name ++ "=" ++ Text.quoted raw ++ " is not a valid value, using default " ++ shown)

def number {α : Type} (env : Environment) (name : String) (read? : List Char → Option α)
    (render : α → String) (fallback : α) : Reading α :=
  match env.lookup name with
  | none => ⟨fallback, []⟩
  | some raw =>
    match read? (Text.trim raw.toList) with
    | some value => ⟨value, []⟩
    | none => ⟨fallback, [warning name raw (render fallback)]⟩

def natural (env : Environment) (name : String) (fallback : Nat) : Reading Nat :=
  env.number name natural? natText fallback

def double (env : Environment) (name : String) (fallback : Binary64) : Reading Binary64 :=
  env.number name Binary64.read? Binary64.logText fallback

def settings (env : Environment) : Reading Settings :=
  let base := Settings.defaults
  let workers := env.natural "TRAFFIC_WORKERS" base.events.workers
  let rate := env.double "TRAFFIC_RATE" base.events.rate
  let queryWorkers := env.natural "TRAFFIC_RPC_WORKERS" base.queries.workers
  let queryRate := env.double "TRAFFIC_RPC_RATE" base.queries.rate
  let seconds := env.natural "TRAFFIC_TIMEOUT_SECS" Settings.defaultSeconds
  ⟨{ description := env.text "TRAFFIC_OPENAPI" base.description
     events := ⟨env.text "TRAFFIC_BASE_URL" base.events.baseUrl, workers.value, rate.value⟩
     queries :=
       ⟨env.text "TRAFFIC_RPC_URL" base.queries.baseUrl, queryWorkers.value, queryRate.value⟩
     timeout := .ofSeconds seconds.value },
    workers.warnings ++ rate.warnings ++ queryWorkers.warnings ++ queryRate.warnings ++
      seconds.warnings⟩

end Environment
end ApiLoad
