import ApiLoad.Number.Reading
import ApiLoad.Settings.Basic

/-!
# Command lines

A command line names a command and gives values to its options, in the short form or the long one,
joined to the value or before it. An option is settled when the next one begins or the line ends: then
its value must be there, must read, and must be the first one it gets.
-/
set_option autoImplicit false

namespace ApiLoad

inductive UsageError
  | help
  | missingCommand
  | unknownCommand
  | unknownArgument
  | missingValue
  | needlessValue
  | unreadableValue
  | repeatedOption
deriving DecidableEq, Repr

def UsageError.message : UsageError → String
  | .help => "help was asked for"
  | .missingCommand => "a command is missing"
  | .unknownCommand => "the command is not known"
  | .unknownArgument => "an argument is not known"
  | .missingValue => "an option lacks its value"
  | .needlessValue => "an option takes no value"
  | .unreadableValue => "the value of an option cannot be read"
  | .repeatedOption => "an option is given twice"

inductive OptionName
  | openapi
  | baseUrl
  | rpcUrl
  | workers
  | rate
  | rpcWorkers
  | rpcRate
  | timeout
deriving DecidableEq, Repr

inductive OptionValue
  | text (value : String)
  | natural (value : Nat)
  | double (value : Binary64)
deriving DecidableEq, Repr

namespace OptionName

def long : OptionName → String
  | .openapi => "openapi"
  | .baseUrl => "base-url"
  | .rpcUrl => "rpc-url"
  | .workers => "workers"
  | .rate => "rate"
  | .rpcWorkers => "rpc-workers"
  | .rpcRate => "rpc-rate"
  | .timeout => "timeout-secs"

def short? : OptionName → Option Char
  | .openapi => some 'o'
  | .baseUrl => some 'u'
  | .workers => some 'w'
  | .rate => some 'r'
  | _ => none

def read? (name : OptionName) (raw : String) : Option OptionValue :=
  match name with
  | .openapi | .baseUrl | .rpcUrl => some (.text raw)
  | .workers | .rpcWorkers | .timeout => (natural? raw.toList).map .natural
  | .rate | .rpcRate => (Binary64.read? raw.toList).map .double

end OptionName

abbrev Given := List (OptionName × OptionValue)

/-- An option whose value may still come, and the value if it came. -/
abbrev Pending := Option (OptionName × Option String)

namespace Given

def settle (given : Given) : Pending → Except UsageError Given
  | none => .ok given
  | some (_, none) => .error .missingValue
  | some (name, some raw) =>
    if (given.lookup name).isSome then .error .repeatedOption
    else match name.read? raw with
      | none => .error .unreadableValue
      | some value => .ok (given ++ [(name, value)])

def text? (given : Given) (name : OptionName) : Option String :=
  match given.lookup name with
  | some (.text value) => some value
  | _ => none

def natural? (given : Given) (name : OptionName) : Option Nat :=
  match given.lookup name with
  | some (.natural value) => some value
  | _ => none

def double? (given : Given) (name : OptionName) : Option Binary64 :=
  match given.lookup name with
  | some (.double value) => some value
  | _ => none

end Given

inductive Word
  | escape
  | long (name : String) (value : Option String)
  | short (letter : Char) (rest : List Char)
  | other (text : String)
deriving DecidableEq, Repr

/-- A dash alone is no option. -/
def Word.ofText (text : String) : Word :=
  match text.toList with
  | ['-', '-'] => .escape
  | '-' :: '-' :: rest =>
    let name := String.ofList (rest.takeWhile (· != '='))
    match rest.dropWhile (· != '=') with
    | _ :: value => .long name (some (String.ofList value))
    | [] => .long name none
  | '-' :: letter :: rest => .short letter rest
  | _ => .other text

def joinedValue : List Char → Option String
  | [] => none
  | '=' :: value => some (String.ofList value)
  | value => some (String.ofList value)

def beginOption (given : Given) (pending : Pending) (name : OptionName) (value : Option String) :
    Except UsageError (Given × Pending) := do
  let given ← given.settle pending
  match value with
  | none => pure (given, some (name, none))
  | some _ => pure (← given.settle (some (name, value)), none)

/-- Asking for help settles the option before it. -/
def askHelp {α : Type} (given : Given) (pending : Pending) : Except UsageError α := do
  let _ ← given.settle pending
  throw .help

def readOptions (known : List OptionName) (given : Given) (pending : Pending) :
    List String → Except UsageError Given
  | [] => given.settle pending
  | text :: rest =>
    match Word.ofText text with
    | .escape => if rest = [] then given.settle pending else .error .unknownArgument
    | .long "help" none => askHelp given pending
    | .long "help" (some _) => .error .needlessValue
    | .long name value =>
      match known.find? (·.long == name) with
      | none => .error .unknownArgument
      | some option => do
        let (given, pending) ← beginOption given pending option value
        readOptions known given pending rest
    | .short 'h' _ => askHelp given pending
    | .short letter joined =>
      match known.find? (·.short? == some letter) with
      | none => .error .unknownArgument
      | some option => do
        let (given, pending) ← beginOption given pending option (joinedValue joined)
        readOptions known given pending rest
    | .other text =>
      match pending with
      | some (name, none) => readOptions known given (some (name, some text)) rest
      | _ => .error .unknownArgument

structure Overrides where
  description : Option String := none
  eventUrl : Option String := none
  queryUrl : Option String := none
  eventWorkers : Option Nat := none
  eventRate : Option Binary64 := none
  queryWorkers : Option Nat := none
  queryRate : Option Binary64 := none
  seconds : Option Nat := none
deriving DecidableEq, Repr

namespace Overrides

def ofGiven (given : Given) : Overrides where
  description := given.text? .openapi
  eventUrl := given.text? .baseUrl
  queryUrl := given.text? .rpcUrl
  eventWorkers := given.natural? .workers
  eventRate := given.double? .rate
  queryWorkers := given.natural? .rpcWorkers
  queryRate := given.double? .rpcRate
  seconds := given.natural? .timeout

def apply (o : Overrides) (s : Settings) : Settings where
  description := o.description.getD s.description
  events := ⟨o.eventUrl.getD s.events.baseUrl, o.eventWorkers.getD s.events.workers,
    o.eventRate.getD s.events.rate⟩
  queries := ⟨o.queryUrl.getD s.queries.baseUrl, o.queryWorkers.getD s.queries.workers,
    o.queryRate.getD s.queries.rate⟩
  timeout := (o.seconds.map Duration.ofSeconds).getD s.timeout

end Overrides

inductive Command
  | run (overrides : Overrides)
  | verify (baseUrl : String) (seconds : Nat)
deriving DecidableEq, Repr

namespace Command

def names : List String := ["run", "verify", "help"]

def runOptions : List OptionName :=
  [.openapi, .baseUrl, .rpcUrl, .workers, .rate, .rpcWorkers, .rpcRate, .timeout]

def verifyOptions : List OptionName := [.baseUrl, .timeout]

def OptionName.usage (name : OptionName) : String :=
  let short := (name.short?.map fun letter => "-" ++ String.singleton letter ++ ", ").getD ""
  "  " ++ short ++ "--" ++ name.long ++ " <VALUE>"

def usage : String :=
  "\n".intercalate
    (["Usage: apiload <COMMAND>", "", "run: generate traffic until interrupted"] ++
      runOptions.map OptionName.usage ++
      ["", "verify: run the fixed checks against an ingestion service"] ++
      verifyOptions.map OptionName.usage)

/-- Help is there for commands, which have none below them. -/
def helpOn : List String → UsageError
  | [] => .help
  | [name] => if names.contains name then .help else .unknownCommand
  | _ => .unknownCommand

def afterEscape : List String → UsageError
  | [] => .missingCommand
  | name :: _ => if names.contains name then .unknownArgument else .unknownCommand

def parse : List String → Except UsageError Command
  | [] => .error .missingCommand
  | "run" :: rest => do
    let given ← readOptions runOptions [] none rest
    pure (.run (.ofGiven given))
  | "verify" :: rest => do
    let given ← readOptions verifyOptions [] none rest
    pure (.verify ((given.text? .baseUrl).getD Settings.defaults.events.baseUrl)
      ((given.natural? .timeout).getD Settings.defaultSeconds))
  | "help" :: rest => .error (helpOn rest)
  | word :: rest =>
    match Word.ofText word with
    | .escape => .error (afterEscape rest)
    | .long "help" none | .short 'h' _ => .error .help
    | .long "help" (some _) => .error .needlessValue
    | .long _ _ | .short _ _ => .error .unknownArgument
    | .other _ => .error .unknownCommand

end Command
end ApiLoad
