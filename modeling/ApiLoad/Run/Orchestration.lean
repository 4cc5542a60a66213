import ApiLoad.Run.Basic
import ApiLoad.Run.Summary
import ApiLoad.Settings.Basic

/-!
# Orchestration

All clients are built before any worker starts. Then the workers run until the shutdown resolves or
the stop is given, the stop is passed on, and every worker is joined. Reports are collected as workers
end and put into the order in which the workers were made.
-/
set_option autoImplicit false

namespace ApiLoad

inductive Stage
  | running
  | joining (places : List Nat)
  | returned (summary : Summary)
deriving Repr

structure Orchestration where
  run : Run
  stage : Stage := .running
  finished : List (Nat × Report) := []
  lost : Nat := 0
  log : List Log.Entry := []

namespace Orchestration

def pool (letter : String) (workload : Workload) (source : Nat → Source) (p : Pool) : List Worker :=
  (List.range p.workers).map fun i =>
    { assignment := ⟨letter ++ natText (i + 1), p.rate, p.baseUrl, workload⟩, source := source i }

def crew (users : Draw String) (catalog : Catalog) (events queries : Pool) (source : Nat → Source) :
    List Worker :=
  pool "E" (.events users catalog) source events ++
    pool "R" .queries (fun i => source (events.workers + i)) queries

def startLine (events queries : Pool) : Log.Entry :=
  Log.info ("Started " ++ natText events.workers ++ " event worker(s) at " ++ events.rate.logText ++
    " rps and " ++ natText queries.workers ++ " RPC worker(s) at " ++ queries.rate.logText ++ " rps")

/-- Builds a client for every worker. The first that cannot be built is the error, and then nothing
has started. -/
def launch (users : Draw String) (catalog : Catalog) (events queries : Pool) (source : Nat → Source)
    (client : Nat → Except Error Unit) : Except Error Orchestration := do
  let workers := crew users catalog events queries source
  (List.range workers.length).forM client
  pure { run := { workers := workers }, log := [startLine events queries] }

inductive Step
  | run (step : Run.Step)
  | shutdown
  | noticeStop
  /-- The worker at a place has ended and is joined. If it is lost, the runtime tells what of. -/
  | join (place : Nat) (loss : String)
  | finish
deriving DecidableEq, Repr

def wind (line : String) (o : Orchestration) : Orchestration :=
  { o with
    run := { o.run with cancelled := true }
    stage := .joining (List.range o.run.workers.length)
    log := o.log ++ [Log.info line] }

def collect? (place : Nat) (loss : String) (places : List Nat) (o : Orchestration) :
    Option Orchestration := do
  let w ← o.run.workers[place]?
  let joined := { o with stage := .joining (places.erase place) }
  match w.phase with
  | .stopped => pure { joined with finished := o.finished ++ [(place, w.report)] }
  | .lost =>
    pure { joined with
      lost := o.lost + 1
      log := o.log ++ [Log.error ("Worker task failed: " ++ loss)] }
  | _ => none

def summary (o : Orchestration) : Summary where
  reports := (o.finished.mergeSort fun a b => a.1 ≤ b.1).map (·.2)
  lost := o.lost
  elapsed := o.run.now

def step? (o : Orchestration) : Step → Option Orchestration
  | .run step =>
    match o.stage with
    | .returned _ => none
    | _ => (o.run.step? step).map fun run => { o with run := run }
  | .shutdown =>
    match o.stage with
    | .running => some (o.wind "Stopping...")
    | _ => none
  | .noticeStop =>
    match o.stage with
    | .running => if o.run.cancelled then some (o.wind "Stop requested") else none
    | _ => none
  | .join place loss =>
    match o.stage with
    | .joining places => if places.contains place then o.collect? place loss places else none
    | _ => none
  | .finish =>
    match o.stage with
    | .joining [] => some { o with stage := .returned o.summary }
    | _ => none

def steps? (o : Orchestration) (steps : List Step) : Option Orchestration := steps.foldlM step? o

def summary? (o : Orchestration) : Option Summary :=
  match o.stage with
  | .returned summary => some summary
  | _ => none

end Orchestration
end ApiLoad
