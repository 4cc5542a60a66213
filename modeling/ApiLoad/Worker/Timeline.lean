import ApiLoad.Worker.Basic

/-!
# Time lines

The life of one worker in virtual time. A tick is delivered at or after its deadline, its post starts
at that moment, and the post takes as long as its answer says. The stop comes at a moment or during
one of the worker's own posts.
-/
set_option autoImplicit false

namespace ApiLoad

structure Answer where
  outcome : Outcome
  latency : Nat
deriving Repr, Inhabited

structure Stop where
  moment : Option Nat := none
  /-- The post during which it comes, counted from one. -/
  during : Option Nat := none
deriving DecidableEq, Repr

def Stop.hasCome (stop : Stop) (now sent : Nat) : Bool :=
  (stop.moment.map fun m => decide (m ≤ now)).getD false ||
    (stop.during.map fun n => decide (n ≤ sent)).getD false

/-- More turns than a worker of the given period can take before the stop. -/
def Stop.turns (stop : Stop) (period : Nat) : Nat :=
  match stop.moment with
  | some m => m / period + 2
  | none => stop.during.getD 0

structure Timeline where
  worker : Worker
  now : Nat := 0
  ids : CallIds := {}
  journal : List (Nat × Event) := []

namespace Timeline

def act (cancelled : Bool) (action : Action) (t : Timeline) : Timeline :=
  match t.worker.act? ⟨t.now, cancelled, t.ids⟩ action with
  | some (worker, ids, events) =>
    ⟨worker, t.now, ids, (events.map fun e => (t.now, e)).reverse ++ t.journal⟩
  | none => t

def reach (moment : Nat) (t : Timeline) : Timeline := { t with now := max t.now moment }

def wake (deliver : Nat → Nat) (t : Timeline) : Nat := max t.now (deliver t.worker.ticker.deadline)

def call (stop : Stop) (answer : Answer) (t : Timeline) : Timeline :=
  let t := ((t.act false .tick).act false (.plan 0)).act false .post
  let t := (t.reach (t.now + answer.latency)).act false (.count answer.outcome)
  t.act (stop.hasCome t.now t.worker.sent) .check

/-- One turn of a waiting worker: it leaves if the stop comes no later than its tick. -/
def turn (deliver : Nat → Nat) (stop : Stop) (answer : Answer) (t : Timeline) : Timeline :=
  let wake := t.wake deliver
  match stop.moment.filter (· ≤ wake) with
  | some moment => (t.reach moment).act true .leave
  | none => (t.reach wake).call stop answer

def turns (deliver : Nat → Nat) (stop : Stop) (answers : Nat → Answer) : Nat → Timeline → Timeline
  | 0, t => t
  | limit + 1, t =>
    let t := t.turn deliver stop (answers t.worker.sent)
    if t.worker.phase == .waiting then turns deliver stop answers limit t else t

def ofWorker (deliver : Nat → Nat) (stop : Stop) (answers : Nat → Answer) (w : Worker) : Timeline :=
  let started := (Timeline.mk w 0 {} []).act false .start
  started.turns deliver stop answers (stop.turns w.period)

def posts (t : Timeline) : List Post := t.journal.reverse.filterMap (·.2.post?)

def lines (t : Timeline) : List (Nat × Log.Entry) :=
  t.journal.reverse.filterMap fun (moment, event) =>
    (event.line? t.worker.assignment.name).map fun line => (moment, line)

/-- A clock of whole milliseconds delivers at the next of them. -/
def nextMillisecond (moment : Nat) : Nat :=
  (moment + (Interval.millisecond - 1)) / Interval.millisecond * Interval.millisecond

end Timeline

structure Member where
  worker : Worker
  answers : Nat → Answer
  stopsDuring : Option Nat

namespace Member

def timeline (deliver : Nat → Nat) (stop : Stop) (m : Member) : Timeline :=
  .ofWorker deliver stop m.answers m.worker

def stopMoment? (deliver : Nat → Nat) (m : Member) : Option Nat := do
  let n ← m.stopsDuring
  let post ← (m.timeline deliver ⟨none, some n⟩).posts.getLast?
  pure post.moment

def earliest (deliver : Nat → Nat) (members : List Member) : Option (Nat × Nat) :=
  (members.zipIdx.filterMap fun (m, i) => (m.stopMoment? deliver).map fun t => (t, i)).foldl
    (fun best next =>
      match best with
      | none => some next
      | some b => if next.1 < b.1 then some next else some b) none

/-- The time lines of a group that is stopped at a given moment, or else by its first member to do
so. -/
def together (deliver : Nat → Nat) (stop : Option Nat) (members : List Member) : List Timeline :=
  match stop, earliest deliver members with
  | none, some (moment, place) =>
    members.mapIdx fun i m =>
      m.timeline deliver (if i = place then ⟨none, m.stopsDuring⟩ else ⟨some moment, none⟩)
  | moment, _ => members.map (·.timeline deliver ⟨moment, none⟩)

def lines (timelines : List Timeline) : List Log.Entry :=
  ((timelines.flatMap Timeline.lines).mergeSort fun a b => a.1 ≤ b.1).map (·.2)

end Member
end ApiLoad
