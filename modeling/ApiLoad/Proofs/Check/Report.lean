import ApiLoad.Program
import ApiLoad.Proofs.Check.Judgement
import Mathlib.Data.List.Induction

/-!
# The report of a verification

A verification goes through its checks one after another. It makes the call of each, keeps one result
and writes one line, and what came of one check bears on no other. The counts, the lines and the exit
code are views of the same results.
-/
set_option autoImplicit false

namespace ApiLoad

namespace Verification

/-- A verification under way: the calls made so far, the results and the lines. -/
structure Session where
  calls : List Http.Call := []
  results : List CheckResult := []
  lines : List Log.Entry := []

def Session.turn (peer : Nat → Http.Peer) (baseUrl : String) (s : Session) (check : Check) : Session :=
  let failure := failureOf (check.run (peer s.results.length) baseUrl)
  { calls := s.calls ++ (check.call? baseUrl).toList
    results := s.results ++ [⟨check.name, failure⟩]
    lines := s.lines ++ [line check failure] }

def session (peer : Nat → Http.Peer) (baseUrl : String) (checks : List Check) : Session :=
  checks.foldl (Session.turn peer baseUrl) {}

section Session

variable (peer : Nat → Http.Peer) (baseUrl : String) (checks : List Check)

end Session

def subject (check : Check) : String :=
  check.method.name ++ " " ++ check.path ++ " (" ++ check.name ++ "): "

end Verification
end ApiLoad
