import ApiLoad.Counter
import ApiLoad.Number.Binary64
import ApiLoad.Text.Blank

/-!
# Settings

What a run is made of: a description, a pool of event workers and one of query workers, and the limit
of time of a request. A run needs something to do, addresses to do it at, and some time to do it in.
-/
set_option autoImplicit false

namespace ApiLoad

structure Duration where
  nanoseconds : Nat
deriving DecidableEq, Repr

def Duration.ofSeconds (seconds : Nat) : Duration := ⟨1000000000 * seconds⟩

structure Pool where
  baseUrl : String
  workers : Nat
  /-- Requests per second and worker. -/
  rate : Binary64
deriving DecidableEq, Repr

structure Settings where
  description : String
  events : Pool
  queries : Pool
  timeout : Duration
deriving DecidableEq, Repr

inductive Rejection
  | overflow
  | noWorkers
  | noEventUrl
  | noQueryUrl
  | noTime
deriving DecidableEq, Repr

def Rejection.message : Rejection → String
  | .overflow => Counter.overflow
  | .noWorkers => "at least one event or RPC worker is required"
  | .noEventUrl => "event base URL is empty"
  | .noQueryUrl => "RPC base URL is empty"
  | .noTime => "request timeout must be positive"

namespace Settings

def one : Binary64 := .ofNat 1

def defaultSeconds : Nat := 5

def defaults : Settings where
  description := "openapi.yaml"
  events := ⟨"http://localhost:8080", 1, one⟩
  queries := ⟨"http://localhost:8081", 0, one⟩
  timeout := .ofSeconds defaultSeconds

/-- The first rule that settings violate is the reason of their rejection. -/
def validate (s : Settings) : Except Rejection Unit :=
  match Counter.add? s.events.workers s.queries.workers with
  | none => .error .overflow
  | some workers =>
    if workers = 0 then .error .noWorkers
    else if 0 < s.events.workers ∧ Text.isAllBlank s.events.baseUrl then .error .noEventUrl
    else if 0 < s.queries.workers ∧ Text.isAllBlank s.queries.baseUrl then .error .noQueryUrl
    else if s.timeout.nanoseconds = 0 then .error .noTime
    else .ok ()

end Settings
end ApiLoad
