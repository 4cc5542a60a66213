import ApiLoad.Check.Basic
import ApiLoad.Log

/-!
# Verification

All checks are run in their order, whatever became of those before. Each gives one result and one line
of the log.
-/
set_option autoImplicit false

namespace ApiLoad

structure CheckResult where
  name : String
  failure : Option String
deriving DecidableEq, Repr

def CheckResult.passed (r : CheckResult) : Bool := r.failure.isNone

structure Verification where
  results : List CheckResult
deriving DecidableEq, Repr

namespace Verification

def passed (v : Verification) : Nat := v.results.countP CheckResult.passed
def failed (v : Verification) : Nat := v.results.length - v.passed
def isSuccess (v : Verification) : Bool := v.failed == 0

def failureOf : Except Check.Failure Unit → Option String
  | .ok () => none
  | .error failure => some failure.message

def line (check : Check) (failure : Option String) : Log.Entry :=
  let subject := check.method.name ++ " " ++ check.path ++ " (" ++ check.name ++ "): "
  match failure with
  | none => Log.info (subject ++ "PASSED")
  | some reason => Log.warn (subject ++ "FAILED: " ++ reason)

/-- The failures of checks in their order. The peer may answer each call in another way. -/
def failures (peer : Nat → Http.Peer) (baseUrl : String) (checks : List Check) :
    List (Check × Option String) :=
  checks.mapIdx fun place check => (check, failureOf (check.run (peer place) baseUrl))

def closing (v : Verification) : Log.Entry :=
  Log.info ("Results: " ++ natText v.passed ++ " passed, " ++ natText v.failed ++ " failed")

def run (peer : Nat → Http.Peer) (baseUrl : String) (checks : List Check) :
    Verification × List Log.Entry :=
  let found := failures peer baseUrl checks
  let v : Verification := ⟨found.map fun (check, failure) => ⟨check.name, failure⟩⟩
  (v, Log.info ("Testing API at " ++ baseUrl) ::
    found.map (fun (check, failure) => line check failure) ++ [v.closing])

end Verification
end ApiLoad
