import ApiLoad.Json.Basic

/-!
# Requests and their outcomes

A request is built before it is posted under the base URL of its worker. Any status is a response;
only a request without a response has failed.
-/
set_option autoImplicit false

namespace ApiLoad

inductive Purpose
  | event
  | query (method : String) (id : Nat)
deriving DecidableEq, Repr, Inhabited

structure Request where
  path : String
  body : Json
  purpose : Purpose
deriving BEq, Repr, Inhabited

/-- The answers of queries are shown in the log; those of events are not read. -/
def Request.wantsBody (r : Request) : Bool :=
  match r.purpose with
  | .event => false
  | .query _ _ => true

inductive Outcome
  | response (status : Nat) (reason : String) (preview : Option String)
  | failed (message : String)
deriving DecidableEq, Repr, Inhabited

def Outcome.isFailure : Outcome → Bool
  | .response _ _ _ => false
  | .failed _ => true

end ApiLoad
