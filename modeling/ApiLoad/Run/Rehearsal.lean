import ApiLoad.Run.Orchestration

/-!
# Rehearsals

Whole orchestrations in one order of steps: every worker posts once before the stop, or the stop comes
before any worker takes a tick.
-/
set_option autoImplicit false

namespace ApiLoad

inductive Cue
  | shutdown
  | token
  | shutdownAtOnce
  | tokenBefore
deriving DecidableEq, Repr

namespace Orchestration

def act? (place : Nat) (o : Orchestration) (action : Action) : Option Orchestration :=
  o.step? (.run (.act place action))

def postOnce? (peer : Http.Peer) (second : Int) (o : Orchestration) (place : Nat) :
    Option Orchestration := do
  let o ← [Action.start, .tick, .plan second, .post].foldlM (act? place) o
  let post ← (o.run.postsOf place).getLast?
  let outcome := Transport.post peer post.url post.request.body post.request.wantsBody
  [Action.count outcome, .check].foldlM (act? place) o

def untilStop? (peer : Http.Peer) (second : Int) (cue : Cue) (o : Orchestration) :
    Option Orchestration := do
  let places := List.range o.run.workers.length
  match cue with
  | .shutdown =>
    let o ← places.foldlM (postOnce? peer second) o
    o.step? .shutdown
  | .token =>
    let o ← places.foldlM (postOnce? peer second) o
    o.steps? [.run .cancel, .run .cancel, .noticeStop]
  | .shutdownAtOnce =>
    let o ← o.step? .shutdown
    places.foldlM (fun o place => act? place o .start) o
  | .tokenBefore =>
    let o ← o.steps? [.run .cancel, .noticeStop]
    places.foldlM (fun o place => act? place o .start) o

def rehearse? (peer : Http.Peer) (second : Int) (cue : Cue) (o : Orchestration) :
    Option Orchestration := do
  let places := List.range o.run.workers.length
  let o ← o.untilStop? peer second cue
  let o ← places.foldlM (fun o place => act? place o .leave) o
  let o ← places.foldlM (fun o place => o.step? (.join place "")) o
  o.step? .finish

end Orchestration
end ApiLoad
