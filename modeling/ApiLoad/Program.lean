import ApiLoad.Catalog.Load
import ApiLoad.Check.Standard
import ApiLoad.Check.Verification
import ApiLoad.Run.Orchestration
import ApiLoad.Settings.Arguments
import ApiLoad.Settings.DotEnv

/-!
# The program

A run goes through its stages in order: settings, description, catalog, clients. The first that fails
ends it, and before the last has passed no worker starts. A verification ends badly if a check failed.
-/
set_option autoImplicit false

namespace ApiLoad.Program

def thresholdVariable : String := "RUST_LOG"

/-- Where no threshold reads, all but the least urgent lines are written. -/
def threshold (env : Environment) : Log.Threshold :=
  ((env.lookup thresholdVariable).bind Log.Threshold.read?).getD (some .info)

structure Opening where
  environment : Environment
  line : Log.Entry
  command : Except UsageError Command

def opening (env : Environment) (file : Option String) (arguments : List String) : Opening :=
  let (environment, line) := DotEnv.tried env file
  ⟨environment, line, Command.parse arguments⟩

inductive Ending
  | success
  | checksFailed
  | usage (reason : UsageError)
  | fatal (error : Error)
  | overflow
deriving DecidableEq, Repr

def Ending.shown? : Ending → Option String
  | .fatal error => some ("Error: " ++ error.shown)
  | .overflow => some Counter.overflow
  | _ => none

def Ending.exitCode : Ending → Nat
  | .success => 0
  | .checksFailed => 1
  | .usage .help => 0
  | .usage _ => 2
  | .fatal _ => 1
  | .overflow => 101

structure World where
  environment : Environment
  fileAt : String → File
  /-- What the parser of descriptions says of a text that is none. -/
  complaint : String → String
  client : Nat → Except Error Unit
  source : Nat → Source
  users : Draw String

/-- A run up to the start of its workers, with the lines of the program itself before and after
those of reading the description. -/
structure Start where
  before : List Log.Entry
  reading : List Log.Entry := []
  after : List Log.Entry := []
  result : Except Ending Orchestration

def Start.log (s : Start) : List Log.Entry := s.before ++ s.reading ++ s.after

def rejected : Rejection → Ending
  | .overflow => .overflow
  | reason => .fatal (.configuration reason.message)

def foundLine (catalog : Catalog) : Log.Entry :=
  Log.info ("Found " ++ natText catalog.size ++ " POST endpoints with examples: " ++
    ", ".intercalate catalog.paths)

def settings (env : Environment) (overrides : Overrides) : Settings × List Log.Entry :=
  let reading := env.settings
  (overrides.apply reading.value, reading.warnings)

def start (world : World) (overrides : Overrides) : Start :=
  let (chosen, warnings) := settings world.environment overrides
  match chosen.validate with
  | .error reason => { before := warnings, result := .error (rejected reason) }
  | .ok () =>
    let before := warnings ++ [Log.info ("Loading API description from " ++ chosen.description)]
    let (loaded, reading) :=
      Catalog.load world.complaint chosen.description (world.fileAt chosen.description)
    match loaded with
    | .error e => ⟨before, reading, [Log.error e.message], .error (.fatal e)⟩
    | .ok catalog =>
      let launched := Orchestration.launch world.users catalog chosen.events chosen.queries
        world.source world.client
      ⟨before, reading, [foundLine catalog], launched.mapError .fatal⟩

inductive Signal
  | interrupt
  | terminate
deriving DecidableEq, Repr, Inhabited

def Signal.line : Signal → Log.Entry
  | .interrupt => Log.info "Received Ctrl+C signal"
  | .terminate => Log.info "Received terminate signal"

def closingLine : Log.Entry := Log.info "Traffic generator stopped"

def finish (summary : Summary) : List Log.Entry × Ending :=
  match summary.log with
  | (lines, true) => (lines, .overflow)
  | (lines, false) => (lines ++ [closingLine], .success)

def verify (peer : Nat → Http.Peer) (baseUrl : String) (now : Int) : Verification × List Log.Entry :=
  Verification.run peer baseUrl (Check.standard now)

def verifyEnding (v : Verification) : Ending := if v.isSuccess then .success else .checksFailed

end ApiLoad.Program
