import ApiLoad.Worker.Basic

/-!
# Runs

Workers side by side on one clock, one stop and one allocator of call numbers. A run is a sequence of
steps: time passes, the stop is given, or one worker acts. Any order of steps that the phases admit is
a run.
-/
set_option autoImplicit false

namespace ApiLoad

structure Run where
  workers : List Worker
  now : Nat := 0
  cancelled : Bool := false
  ids : CallIds := {}
  journal : List (Nat × Event) := []

namespace Run

inductive Step
  | elapse (duration : Nat)
  | cancel
  | act (place : Nat) (action : Action)
deriving DecidableEq, Repr

def surroundings (r : Run) : Surroundings := ⟨r.now, r.cancelled, r.ids⟩

def step? (r : Run) : Step → Option Run
  | .elapse duration => some { r with now := r.now + duration }
  | .cancel => some { r with cancelled := true }
  | .act place action => do
    let w ← r.workers[place]?
    let (w, ids, events) ← w.act? r.surroundings action
    pure { r with
      workers := r.workers.set place w
      ids := ids
      journal := r.journal ++ events.map fun e => (place, e) }

def steps? (r : Run) (steps : List Step) : Option Run := steps.foldlM step? r

def eventsOf (r : Run) (place : Nat) : List Event :=
  (r.journal.filter (·.1 = place)).map (·.2)

def postsOf (r : Run) (place : Nat) : List Post := (r.eventsOf place).filterMap Event.post?

def posts (r : Run) : List Post := r.journal.filterMap (·.2.post?)

def lines (r : Run) : List Log.Entry :=
  r.journal.filterMap fun (place, event) =>
    (r.workers[place]?).bind fun w => event.line? w.assignment.name

end Run
end ApiLoad
