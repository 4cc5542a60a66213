import ApiLoad.Transport
import ApiLoad.Worker.Event
import ApiLoad.Worker.Ticker
import ApiLoad.Workload

/-!
# Workers

A worker takes a tick, plans a request, posts it, counts its outcome, and only then looks at the stop
or waits for the next tick. A stop ends the wait for a tick at once, and no tick is taken after it.
A request that is planned is posted, and a post under way always comes to its end.
-/
set_option autoImplicit false

namespace ApiLoad

structure Assignment where
  name : String
  rate : Binary64
  baseUrl : String
  workload : Workload

inductive Phase
  | idle
  | waiting
  | ticked
  | planned (request : Request)
  | calling (request : Request)
  /-- The request is counted, and the stop is not looked at yet. -/
  | counted
  | stopped
  /-- Ended without a report. -/
  | lost
deriving BEq, Repr, Inhabited

structure Worker where
  assignment : Assignment
  source : Source
  ticker : Ticker := default
  phase : Phase := .idle
  sent : Nat := 0
  failed : Nat := 0

structure Report where
  name : String
  sent : Nat
  failed : Nat
deriving DecidableEq, Repr, Inhabited

inductive Action
  | start
  | tick
  | plan (second : Int)
  | post
  | count (outcome : Outcome)
  | check
  | leave
  | crash
deriving DecidableEq, Repr

structure Surroundings where
  now : Nat
  cancelled : Bool
  ids : CallIds

namespace Worker

def period (w : Worker) : Nat := Interval.ofRate w.assignment.rate

def report (w : Worker) : Report := ⟨w.assignment.name, w.sent, w.failed⟩

def stop (w : Worker) : Worker × List Event :=
  ({ w with phase := .stopped }, [.stopped w.sent w.failed])

def plan? (w : Worker) (s : Surroundings) (second : Int) :
    Option (Worker × CallIds × List Event) := do
  let ((request, ids), source) ← (w.assignment.workload.next second w.sent s.ids).run w.source
  pure ({ w with source := source, phase := .planned request }, ids, [.planned request])

def postOf (w : Worker) (s : Surroundings) (request : Request) : Post :=
  ⟨s.now, Transport.joinUrl w.assignment.baseUrl request.path, request⟩

/-- One action of a worker, where its phase admits it: the worker after it, the numbers left, and the
events. -/
def act? (w : Worker) (s : Surroundings) (action : Action) :
    Option (Worker × CallIds × List Event) :=
  match action, w.phase with
  | .start, .idle =>
    let events :=
      [.started w.assignment.workload.mode w.assignment.rate w.assignment.baseUrl]
    some ({ w with phase := .waiting, ticker := .start w.period s.now }, s.ids, events)
  | .tick, .waiting =>
    if !s.cancelled && w.ticker.isDue s.now then
      some ({ w with phase := .ticked, ticker := w.ticker.take s.now }, s.ids, [])
    else none
  | .leave, .waiting =>
    if s.cancelled then
      let (w, events) := w.stop
      some (w, s.ids, events)
    else none
  | .plan second, .ticked => w.plan? s second
  | .post, .planned request =>
    some ({ w with phase := .calling request }, s.ids, [.posted (w.postOf s request)])
  | .count outcome, .calling request =>
    let failed := if outcome.isFailure then w.failed + 1 else w.failed
    some ({ w with phase := .counted, sent := w.sent + 1, failed := failed }, s.ids,
      [.finished request outcome])
  | .check, .counted =>
    if s.cancelled then
      let (w, events) := w.stop
      some (w, s.ids, events)
    else some ({ w with phase := .waiting }, s.ids, [])
  | .crash, phase =>
    if phase == .stopped || phase == .lost then none
    else some ({ w with phase := .lost }, s.ids, [])
  | _, _ => none

end Worker
end ApiLoad
