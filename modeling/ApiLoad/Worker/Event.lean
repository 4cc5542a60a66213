import ApiLoad.Log
import ApiLoad.Number.Layout
import ApiLoad.Request

/-!
# What a worker does

The events of a worker in their order. All but the plan of a request and the start of its post are
lines of the log.
-/
set_option autoImplicit false

namespace ApiLoad

structure Post where
  moment : Nat
  url : String
  request : Request
deriving BEq, Repr, Inhabited

inductive Event
  | started (mode : String) (rate : Binary64) (target : String)
  | planned (request : Request)
  | posted (post : Post)
  | finished (request : Request) (outcome : Outcome)
  | stopped (sent failed : Nat)
deriving BEq, Repr

namespace Event

def post? : Event → Option Post
  | .posted post => some post
  | _ => none

def outcomeLine (worker : String) (request : Request) (outcome : Outcome) : Log.Entry :=
  let origin := ("worker", worker)
  match request.purpose, outcome with
  | .event, .response status reason _ =>
    ⟨.info, "POST " ++ request.path ++ " -> " ++ natText status ++ " (" ++ reason ++ ")", [origin]⟩
  | .event, .failed message => ⟨.warn, "ERROR POST " ++ request.path ++ " -> " ++ message, [origin]⟩
  | .query method id, .response status reason preview =>
    ⟨.info, "RPC " ++ method ++ " -> " ++ natText status ++ " (" ++ reason ++ ") " ++ preview.getD "",
      [origin, ("id", natText id)]⟩
  | .query method id, .failed message =>
    ⟨.warn, "ERROR RPC " ++ method ++ " -> " ++ message, [origin, ("id", natText id)]⟩

def line? (worker : String) : Event → Option Log.Entry
  | .started mode rate target =>
    some ⟨.info, "worker started",
      [("worker", worker), ("mode", mode), ("rate", rate.fieldText), ("target", target)]⟩
  | .planned _ | .posted _ => none
  | .finished request outcome => some (outcomeLine worker request outcome)
  | .stopped sent failed =>
    some ⟨.info, "worker stopped",
      [("worker", worker), ("sent", natText sent), ("failed", natText failed)]⟩

end Event
end ApiLoad
