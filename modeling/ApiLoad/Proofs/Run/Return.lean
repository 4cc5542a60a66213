import ApiLoad.Proofs.Run.Stop
import Mathlib.Algebra.Order.BigOperators.Group.List
import Mathlib.Algebra.Order.Group.Nat

/-!
# The return

Once the stop is given an orchestration comes to its return. Until then there is always a step that
brings it nearer, whatever the outcomes of the posts under way, and there are only so many such steps.
-/
set_option autoImplicit false

namespace ApiLoad

theorem Worker.Acts.endless {w w' : Worker} {s : Surroundings} {action : Action} {ids : CallIds}
    {events : List Event} (hAct : w.Acts s action w' ids events) (h : w.Endless) : w'.Endless := by
  cases hAct with
  | plan _ hNext => exact Workload.Endless.of_next h hNext
  | _ => exact h

theorem sum_map_set_lt {α : Type} (size : α → Nat) {items : List α} {place : Nat} {old new : α}
    (hFound : items[place]? = some old) (h : size new < size old) :
    ((items.set place new).map size).sum < (items.map size).sum := by
  induction items generalizing place with
  | nil => cases hFound
  | cons first rest ih =>
    cases place with
    | zero =>
      cases hFound
      simpa using h
    | succ place => simpa using ih hFound

namespace Orchestration

/-- Steps other than the passing of time and a stop that was given before. -/
def Step.works : Step → Bool
  | .run (.elapse _) | .run .cancel => false
  | _ => true

/-- The step loses no worker, and ends a post in the given way only. -/
def Step.Yields (outcome : Outcome) : Step → Prop
  | .run (.act _ .crash) => False
  | .run (.act _ (.count other)) => other = outcome
  | _ => True

/-- The number of working steps that are left after the stop. -/
def toReturn (o : Orchestration) : Nat :=
  match o.stage with
  | .running => (o.run.workers.map (·.phase.toStop)).sum + o.run.workers.length + 2
  | .joining places => (o.run.workers.map (·.phase.toStop)).sum + places.length + 1
  | .returned _ => 0

theorem summary?_eq_none_iff {o : Orchestration} :
    o.summary? = none ↔ o.stage = .running ∨ ∃ places, o.stage = .joining places := by
  unfold summary?
  cases o.stage <;> simp

theorem toReturn_of_run {o : Orchestration} {run : Run} (hStage : o.summary? = none)
    (hLength : run.workers.length = o.run.workers.length) :
    ({ o with run := run } : Orchestration).toReturn + (o.run.workers.map (·.phase.toStop)).sum =
      o.toReturn + (run.workers.map (·.phase.toStop)).sum := by
  rcases summary?_eq_none_iff.mp hStage with hStage | ⟨places, hStage⟩ <;>
    simp only [toReturn, hStage] <;> omega

/-- A working step brings the return nearer, and no other step does. -/
theorem Moves.toReturn {o o' : Orchestration} {step : Step} (h : o.Moves step o')
    (hStop : o.run.cancelled = true) : o'.toReturn + (if step.works then 1 else 0) ≤ o.toReturn := by
  cases h with
  | @run step run hStage hStep =>
    have hSame := toReturn_of_run hStage (Run.step?_forward hStep).2.2
    cases step with
    | elapse | cancel =>
      cases hStep
      simp only [Step.works] at hSame ⊢
      simp at hSame ⊢
      omega
    | act place action =>
      obtain ⟨w, w', ids, events, hFound, hAct, rfl⟩ := Run.step?_act hStep
      have hLess := sum_map_set_lt (·.phase.toStop) hFound (hAct.toStop_lt hStop)
      simp only [Step.works, if_true] at hSame ⊢
      omega
  | shutdown hStage | noticeStop hStage =>
    simp [Orchestration.toReturn, wind, hStage, Step.works]
  | @collect place _ places w hStage hPlace | @lose place _ places w hStage hPlace =>
    have hLength := List.length_erase_of_mem hPlace
    have hSome := List.length_pos_of_mem hPlace
    simp only [Orchestration.toReturn, hStage, Step.works, if_true]
    omega
  | finish hStage => simp [Orchestration.toReturn, hStage, Step.works]

/-- After the stop: the orchestration knows what it has collected, and no worker runs out of requests. -/
structure Winding (o : Orchestration) : Prop where
  stop : o.run.cancelled = true
  collated : o.Collated
  endless : ∀ w ∈ o.run.workers, w.Endless

theorem endless_of_step? {r r' : Run} {step : Run.Step} (h : ∀ w ∈ r.workers, w.Endless)
    (hStep : r.step? step = some r') : ∀ w ∈ r'.workers, w.Endless := by
  cases step with
  | elapse | cancel =>
    cases hStep
    exact h
  | act place action =>
    obtain ⟨w, w', ids, events, hFound, hAct, rfl⟩ := Run.step?_act hStep
    intro v hv
    rcases List.mem_or_eq_of_mem_set hv with hv | rfl
    · exact h v hv
    · exact hAct.endless (h w (List.mem_of_getElem? hFound))

theorem endless_of_steps? {r r' : Run} {steps : List Run.Step} (h : ∀ w ∈ r.workers, w.Endless)
    (hRun : r.steps? steps = some r') : ∀ w ∈ r'.workers, w.Endless :=
  Run.steps?_preserves (P := fun r => ∀ w ∈ r.workers, w.Endless) endless_of_step? h hRun

theorem Winding.move {o o' : Orchestration} {step : Step} (h : o.Winding) (hMoves : o.Moves step o') :
    o'.Winding :=
  ⟨Run.cancelled_of_steps? hMoves.run_eq h.stop, h.collated.move hMoves,
    endless_of_steps? h.endless hMoves.run_eq⟩

theorem Winding.exists_move {o : Orchestration} (h : o.Winding) (hOn : o.summary? = none)
    (outcome : Outcome) : ∃ step o', o.Moves step o' ∧ step.works = true ∧ step.Yields outcome := by
  rcases summary?_eq_none_iff.mp hOn with hStage | ⟨places, hStage⟩
  · exact ⟨.noticeStop, _, .noticeStop hStage h.stop, rfl, trivial⟩
  · cases places with
    | nil => exact ⟨.finish, _, .finish hStage, rfl, trivial⟩
    | cons place rest =>
      have hCollated := h.collated
      rw [Collated, hStage] at hCollated
      obtain ⟨gone, hGathered⟩ := hCollated
      have hPlace : place < o.run.workers.length :=
        List.mem_range.mp (hGathered.places.mem_iff.mp (by simp))
      have hFound := List.getElem?_eq_getElem hPlace
      by_cases hStopped : o.run.workers[place].phase = .stopped
      · exact ⟨.join place "", _, .collect hStage List.mem_cons_self hFound hStopped, rfl, trivial⟩
      by_cases hLost : o.run.workers[place].phase = .lost
      · exact ⟨.join place "", _, .lose hStage List.mem_cons_self hFound hLost, rfl, trivial⟩
      -- The worker is still on its way, and its next action is possible.
      obtain ⟨action, w', ids, events, hAct, hNotLost, hOutcome⟩ :=
        Worker.exists_acts (s := o.run.surroundings) h.stop hStopped hLost
          (fun _ => h.endless _ (List.getElem_mem hPlace)) outcome
      refine ⟨.run (.act place action), _, .run hOn (Run.step?_of_acts hFound hAct), rfl, ?_⟩
      cases hAct with
      | crash => exact absurd rfl hNotLost
      | count => exact hOutcome _ rfl
      | _ => trivial

theorem Winding.exists_return {o : Orchestration} (h : o.Winding) (outcome : Outcome) :
    ∃ steps o' summary, o.steps? steps = some o' ∧ o'.summary? = some summary ∧
      ∀ step ∈ steps, step.Yields outcome := by
  induction hBound : o.toReturn using Nat.strongRecOn generalizing o with
  | ind bound ih =>
    cases hReturned : o.summary? with
    | some summary => exact ⟨[], o, summary, rfl, hReturned, nofun⟩
    | none =>
      obtain ⟨step, between, hMoves, hWorks, hYields⟩ := h.exists_move hReturned outcome
      have hLess := hMoves.toReturn h.stop
      rw [hWorks, if_pos rfl] at hLess
      obtain ⟨steps, o', summary, hRun, hEnd, hAll⟩ := ih _ (by omega) (h.move hMoves) rfl
      refine ⟨step :: steps, o', summary, ?_, hEnd, List.forall_mem_cons.mpr ⟨hYields, hAll⟩⟩
      rw [steps?, List.foldlM_cons, hMoves.step?]
      exact hRun

end Orchestration

namespace Orchestration

section Launched

variable {users : Draw String} {catalog : Catalog} {events queries : Pool} {source : Nat → Source}
  {client : Nat → Except Error Unit} {o o' : Orchestration} {steps : List Step} {summary : Summary}

end Launched

end Orchestration
end ApiLoad
