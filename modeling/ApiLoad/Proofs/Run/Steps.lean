import ApiLoad.Proofs.Worker.Course
import ApiLoad.Run.Basic

/-!
# Steps of a run, seen from one worker

A step of a run is for each worker an action of its own or nothing at all. So what every action of a
worker preserves holds of every worker after every run, whatever the others do in between. The journal
holds the events of all workers and, up to their order, nothing else.
-/
set_option autoImplicit false

namespace ApiLoad.Run

def ofWorkers (workers : List Worker) : Run := { workers := workers }

theorem steps?_cons (r : Run) (step : Step) (steps : List Step) :
    r.steps? (step :: steps) = (r.step? step).bind fun r => r.steps? steps := by
  simp [steps?, List.foldlM_cons]

theorem steps?_append (r : Run) (first second : List Step) :
    r.steps? (first ++ second) = (r.steps? first).bind fun r => r.steps? second := by
  simp [steps?, List.foldlM_append]

theorem steps?_singleton (r : Run) (step : Step) : r.steps? [step] = r.step? step := by
  simp [steps?]

/-- What each of the given steps preserves, the run of them preserves. -/
theorem steps?_preserves_of_mem {P : Run → Prop} {steps : List Step}
    (hStep : ∀ {r r' : Run} {step : Step}, step ∈ steps → P r → r.step? step = some r' → P r')
    {r r' : Run} (h : P r) (hRun : r.steps? steps = some r') : P r' := by
  induction steps generalizing r with
  | nil =>
    cases hRun
    exact h
  | cons step steps ih =>
    rw [steps?_cons, Option.bind_eq_some_iff] at hRun
    obtain ⟨between, hFirst, hRest⟩ := hRun
    exact ih (fun hMem => hStep (List.mem_cons_of_mem _ hMem))
      (hStep List.mem_cons_self h hFirst) hRest

theorem steps?_preserves {P : Run → Prop}
    (hStep : ∀ {r r' : Run} {step : Step}, P r → r.step? step = some r' → P r')
    {r r' : Run} {steps : List Step} (h : P r) (hRun : r.steps? steps = some r') : P r' :=
  steps?_preserves_of_mem (fun _ => hStep) h hRun

theorem step?_act {r r' : Run} {place : Nat} {action : Action}
    (h : r.step? (.act place action) = some r') :
    ∃ w w' ids events, r.workers[place]? = some w ∧
      w.Acts r.surroundings action w' ids events ∧
      r' = { r with
        workers := r.workers.set place w'
        ids := ids
        journal := r.journal ++ events.map fun e => (place, e) } := by
  simp only [step?, Option.bind_eq_bind, Option.bind_eq_some_iff] at h
  obtain ⟨w, hFound, ⟨w', ids, events⟩, hAct, h⟩ := h
  cases h
  exact ⟨w, w', ids, events, hFound, Worker.acts_of_act? hAct, rfl⟩

theorem step?_of_acts {r : Run} {place : Nat} {w w' : Worker} {action : Action} {ids : CallIds}
    {events : List Event} (hFound : r.workers[place]? = some w)
    (hAct : w.Acts r.surroundings action w' ids events) :
    r.step? (.act place action) = some { r with
      workers := r.workers.set place w'
      ids := ids
      journal := r.journal ++ events.map fun e => (place, e) } := by
  rw [step?, hFound]
  simp [hAct.act?]

theorem eventsOf_append (r : Run) (place other : Nat) (events : List Event) (workers : List Worker)
    (ids : CallIds) :
    ({ r with
      workers := workers
      ids := ids
      journal := r.journal ++ events.map fun e => (other, e) } : Run).eventsOf place =
      r.eventsOf place ++ if other = place then events else [] := by
  have h : ((events.map fun e => (other, e)).filter fun e => e.1 = place).map (·.2) =
      if other = place then events else [] := by
    by_cases hPlace : other = place <;> simp [List.filter_map, Function.comp_def, hPlace]
  rw [← h, eventsOf, List.filter_append, List.map_append]
  rfl

/-- A step is an action of the worker at a place, or leaves that worker alone. -/
theorem step?_at {r r' : Run} {step : Step} {place : Nat} {w : Worker} (h : r.step? step = some r')
    (hFound : r.workers[place]? = some w) :
    ((∀ action, step ≠ .act place action) ∧ r'.workers[place]? = some w ∧
      r'.eventsOf place = r.eventsOf place) ∨
    ∃ action w' events, step = .act place action ∧ w.Acts r.surroundings action w' r'.ids events ∧
      r'.workers[place]? = some w' ∧ r'.eventsOf place = r.eventsOf place ++ events := by
  cases step with
  | elapse | cancel =>
    cases h
    exact .inl ⟨by simp, hFound, rfl⟩
  | act other action =>
    obtain ⟨v, v', ids, events, hOther, hAct, rfl⟩ := step?_act h
    by_cases hPlace : other = place
    · subst hPlace
      obtain rfl : v = w := by simpa [hOther] using hFound
      have hLength : other < r.workers.length := (List.getElem?_eq_some_iff.mp hFound).1
      exact .inr ⟨action, v', events, rfl, hAct, by simp [hLength], by simp [eventsOf_append]⟩
    · exact .inl ⟨by simp [hPlace], by simp [hPlace, hFound], by simp [eventsOf_append, hPlace]⟩

theorem step?_forward {r r' : Run} {step : Step} (h : r.step? step = some r') :
    (r.cancelled = true → r'.cancelled = true) ∧ r.now ≤ r'.now ∧
      r'.workers.length = r.workers.length := by
  cases step with
  | elapse | cancel =>
    cases h
    simp
  | act place action =>
    obtain ⟨_, _, _, _, _, _, rfl⟩ := step?_act h
    simp

theorem cancelled_of_steps? {r r' : Run} {steps : List Step} (hRun : r.steps? steps = some r')
    (h : r.cancelled = true) : r'.cancelled = true :=
  steps?_preserves (P := fun r => r.cancelled = true) (fun h hStep => (step?_forward hStep).1 h) h hRun

theorem length_workers_of_steps? {r r' : Run} {steps : List Step} (hRun : r.steps? steps = some r') :
    r'.workers.length = r.workers.length :=
  steps?_preserves (P := fun r' => r'.workers.length = r.workers.length)
    (fun h hStep => (step?_forward hStep).2.2.trans h) rfl hRun

/-- What each action of a worker among the given steps preserves of it and its events holds of it
after the run. -/
theorem steps?_at_of_mem {P : Worker → List Event → Prop} {steps : List Step} {place : Nat}
    (hAct : ∀ {w w' : Worker} {s : Surroundings} {action : Action} {ids : CallIds}
      {events new : List Event}, .act place action ∈ steps → P w events →
      w.Acts s action w' ids new → P w' (events ++ new))
    {r r' : Run} {w : Worker} (hRun : r.steps? steps = some r') (hFound : r.workers[place]? = some w)
    (h : P w (r.eventsOf place)) : ∃ w', r'.workers[place]? = some w' ∧ P w' (r'.eventsOf place) := by
  refine steps?_preserves_of_mem
    (P := fun r => ∃ w, r.workers[place]? = some w ∧ P w (r.eventsOf place)) ?_ ⟨w, hFound, h⟩ hRun
  rintro r r' step hMem ⟨w, hFound, h⟩ hStep
  obtain ⟨_, hSame, hEvents⟩ | ⟨_, w', _, rfl, hActs, hNew, hEvents⟩ := step?_at hStep hFound
  · exact ⟨w, hSame, hEvents ▸ h⟩
  · exact ⟨w', hNew, hEvents ▸ hAct hMem h hActs⟩

/-- What every action of a worker preserves of it and its events holds of it after a run. -/
theorem steps?_at {P : Worker → List Event → Prop}
    (hAct : ∀ {w w' : Worker} {s : Surroundings} {action : Action} {ids : CallIds}
      {events new : List Event}, P w events → w.Acts s action w' ids new → P w' (events ++ new))
    {r r' : Run} {steps : List Step} {place : Nat} {w : Worker} (hRun : r.steps? steps = some r')
    (hFound : r.workers[place]? = some w) (h : P w (r.eventsOf place)) :
    ∃ w', r'.workers[place]? = some w' ∧ P w' (r'.eventsOf place) :=
  steps?_at_of_mem (fun _ => hAct) hRun hFound h

theorem steps?_over {r r' : Run} {steps : List Step} {place : Nat} {w : Worker}
    (hRun : r.steps? steps = some r') (hFound : r.workers[place]? = some w)
    (hOver : w.phase = .stopped ∨ w.phase = .lost) :
    r'.workers[place]? = some w ∧ r'.eventsOf place = r.eventsOf place := by
  have hStays : ∀ {v v' : Worker} {s : Surroundings} {action : Action} {ids : CallIds}
      {events new : List Event}, v = w ∧ events = r.eventsOf place → v.Acts s action v' ids new →
      v' = w ∧ events ++ new = r.eventsOf place := by
    rintro v v' s action ids events new ⟨rfl, -⟩ hAct
    exact absurd hOver (not_or.mpr hAct.not_over)
  obtain ⟨w', hFound', rfl, hEvents⟩ :=
    steps?_at (P := fun v events => v = w ∧ events = r.eventsOf place) hStays hRun hFound ⟨rfl, rfl⟩
  exact ⟨hFound', hEvents⟩

theorem follows_of_steps? {workers : List Worker} (hNew : ∀ w ∈ workers, w.IsNew) {r : Run}
    {steps : List Step} (hRun : (ofWorkers workers).steps? steps = some r) {place : Nat} {w : Worker}
    (hFound : r.workers[place]? = some w) :
    ∃ v, workers[place]? = some v ∧ w.assignment = v.assignment ∧
      ∃ rounds, w.Follows rounds (r.eventsOf place) := by
  have hLength : place < workers.length :=
    length_workers_of_steps? hRun ▸ (List.getElem?_eq_some_iff.mp hFound).1
  have hStart := (hNew _ (List.getElem_mem hLength)).follows
  obtain ⟨w', hFound', hFollows⟩ := steps?_at
    (P := fun w events => w.assignment = workers[place].assignment ∧ ∃ rounds, w.Follows rounds events)
    (fun ⟨hAssignment, _, h⟩ hAct => ⟨hAct.assignment.trans hAssignment, h.act hAct⟩)
    hRun (List.getElem?_eq_getElem hLength) ⟨rfl, [], hStart⟩
  obtain rfl : w = w' := by simpa [hFound] using hFound'
  exact ⟨workers[place], List.getElem?_eq_getElem hLength, hFollows⟩

end ApiLoad.Run
