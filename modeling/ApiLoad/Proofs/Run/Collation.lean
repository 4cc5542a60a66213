import ApiLoad.Proofs.Run.Steps
import ApiLoad.Run.Orchestration
import Mathlib.Data.List.Basic

/-!
# The collation of reports

While an orchestration joins its workers, the places of the reports, those of the lost workers and
those still waited for are together all places, each once. A worker that has ended stays as it is, so
at the return the reports are those of the workers that stopped, in the order of their places,
whatever the order in which they were joined.
-/
set_option autoImplicit false

namespace ApiLoad

def Worker.report? (w : Worker) : Option Report :=
  match w.phase with
  | .stopped => some w.report
  | _ => none

theorem Worker.report?_of_stopped {w : Worker} (h : w.phase = .stopped) : w.report? = some w.report := by
  rw [report?, h]

theorem Worker.stopped_of_report? {w : Worker} {report : Report} (h : w.report? = some report) :
    w.phase = .stopped := by
  unfold report? at h
  split at h
  · assumption
  · cases h

namespace Orchestration

/-- What each step does, and when. -/
inductive Moves (o : Orchestration) : Step → Orchestration → Prop
  | run {step : Run.Step} {run : Run} (hStage : o.summary? = none)
      (h : o.run.step? step = some run) : Moves o (.run step) { o with run := run }
  | shutdown (hStage : o.stage = .running) : Moves o .shutdown (o.wind "Stopping...")
  | noticeStop (hStage : o.stage = .running) (hStop : o.run.cancelled = true) :
      Moves o .noticeStop (o.wind "Stop requested")
  | collect {place : Nat} {loss : String} {places : List Nat} {w : Worker}
      (hStage : o.stage = .joining places) (hPlace : place ∈ places)
      (hFound : o.run.workers[place]? = some w) (hPhase : w.phase = .stopped) :
      Moves o (.join place loss)
        { o with
          stage := .joining (places.erase place)
          finished := o.finished ++ [(place, w.report)] }
  | lose {place : Nat} {loss : String} {places : List Nat} {w : Worker}
      (hStage : o.stage = .joining places) (hPlace : place ∈ places)
      (hFound : o.run.workers[place]? = some w) (hPhase : w.phase = .lost) :
      Moves o (.join place loss)
        { o with
          stage := .joining (places.erase place)
          lost := o.lost + 1
          log := o.log ++ [Log.error ("Worker task failed: " ++ loss)] }
  | finish (hStage : o.stage = .joining []) :
      Moves o .finish { o with stage := .returned o.summary }

theorem moves_of_step? {o o' : Orchestration} {step : Step} (h : o.step? step = some o') :
    o.Moves step o' := by
  cases step with
  | run step =>
    simp only [step?] at h
    split at h
    · cases h
    · rename_i hStage
      obtain ⟨run, hRun, rfl⟩ := Option.map_eq_some_iff.mp h
      refine .run ?_ hRun
      unfold summary?
      split
      · exact absurd ‹_› (hStage _)
      · rfl
  | shutdown =>
    simp only [step?] at h
    split at h
    · cases h
      exact .shutdown ‹_›
    · cases h
  | noticeStop =>
    simp only [step?] at h
    split at h
    · split at h
      · cases h
        exact .noticeStop ‹_› ‹_›
      · cases h
    · cases h
  | join place loss =>
    simp only [step?] at h
    split at h
    · split at h
      · rename_i places hStage hPlace
        have hPlace : place ∈ places := by simpa using hPlace
        simp only [collect?, Option.bind_eq_bind, Option.bind_eq_some_iff] at h
        obtain ⟨w, hFound, h⟩ := h
        split at h
        · cases h
          exact .collect hStage hPlace hFound ‹_›
        · cases h
          exact .lose hStage hPlace hFound ‹_›
        · cases h
      · cases h
    · cases h
  | finish =>
    simp only [step?] at h
    split at h
    · cases h
      exact .finish ‹_›
    · cases h

theorem Moves.step? {o o' : Orchestration} {step : Step} (h : o.Moves step o') :
    o.step? step = some o' := by
  cases h with
  | run hStage hStep =>
    unfold summary? at hStage
    simp only [Orchestration.step?, hStep]
    split
    · simp [*] at hStage
    · rfl
  | shutdown hStage => simp only [Orchestration.step?, hStage]
  | noticeStop hStage hStop => simp only [Orchestration.step?, hStage, hStop, if_true]
  | collect hStage hPlace hFound hPhase | lose hStage hPlace hFound hPhase =>
    simp [Orchestration.step?, hStage, hPlace, collect?, hFound, hPhase]
  | finish hStage => simp only [Orchestration.step?, hStage]

theorem steps?_preserves {P : Orchestration → Prop}
    (hStep : ∀ {o o' : Orchestration} {step : Step}, P o → o.Moves step o' → P o')
    {o o' : Orchestration} {steps : List Step} (h : P o) (hRun : o.steps? steps = some o') : P o' := by
  induction steps generalizing o with
  | nil =>
    cases hRun
    exact h
  | cons step steps ih =>
    simp only [steps?, List.foldlM_cons, Option.bind_eq_bind, Option.bind_eq_some_iff] at hRun
    obtain ⟨between, hFirst, hRest⟩ := hRun
    exact ih (hStep h (moves_of_step? hFirst)) hRest

def Step.ofRun : Step → List Run.Step
  | .run step => [step]
  | .shutdown | .noticeStop => [.cancel]
  | .join _ _ | .finish => []

theorem Moves.run_eq {o o' : Orchestration} {step : Step} (h : o.Moves step o') :
    o.run.steps? step.ofRun = some o'.run := by
  cases h with
  | run _ hStep => exact (Run.steps?_singleton ..).trans hStep
  | shutdown | noticeStop => exact Run.steps?_singleton ..
  | collect | lose | finish => rfl

theorem steps?_ofRun {o o' : Orchestration} {steps : List Step} (hRun : o.steps? steps = some o') :
    o.run.steps? (steps.flatMap Step.ofRun) = some o'.run := by
  induction steps generalizing o with
  | nil =>
    cases hRun
    rfl
  | cons step steps ih =>
    simp only [steps?, List.foldlM_cons, Option.bind_eq_bind, Option.bind_eq_some_iff] at hRun
    obtain ⟨between, hFirst, hRest⟩ := hRun
    rw [List.flatMap_cons, Run.steps?_append, (moves_of_step? hFirst).run_eq]
    exact ih hRest

theorem act_mem_of_mem_ofRun {steps : List Step} {place : Nat} {action : Action}
    (h : .act place action ∈ steps.flatMap Step.ofRun) : .run (.act place action) ∈ steps := by
  obtain ⟨step, hStep, h⟩ := List.mem_flatMap.mp h
  cases step with
  | run inner =>
    obtain rfl := List.mem_singleton.mp h
    exact hStep
  | shutdown | noticeStop => cases List.mem_singleton.mp h
  | join | finish => cases h

theorem steps?_run {o o' : Orchestration} {steps : List Step} (hRun : o.steps? steps = some o') :
    ∃ runSteps, o.run.steps? runSteps = some o'.run := ⟨_, steps?_ofRun hRun⟩

/-- The joined workers with their reports, those that are lost, and those still waited for. -/
structure Gathered (o : Orchestration) (gone left : List Nat) : Prop where
  places : (o.finished.map (·.1) ++ gone ++ left).Perm (List.range o.run.workers.length)
  finished : ∀ entry ∈ o.finished, ∃ w, o.run.workers[entry.1]? = some w ∧ w.report? = some entry.2
  losses : ∀ place ∈ gone, ∃ w, o.run.workers[place]? = some w ∧ w.phase = .lost
  lost : gone.length = o.lost

/-- What is known of the reports in each stage. -/
def Collated (o : Orchestration) : Prop :=
  match o.stage with
  | .running => o.finished = [] ∧ o.lost = 0
  | .joining left => ∃ gone, o.Gathered gone left
  | .returned summary => summary = o.summary ∧ ∃ gone, o.Gathered gone []

theorem Gathered.run {o : Orchestration} {gone left : List Nat} (h : o.Gathered gone left)
    {step : Run.Step} {run : Run} (hStep : o.run.step? step = some run) :
    ({ o with run := run } : Orchestration).Gathered gone left := by
  have hRun : o.run.steps? [step] = some run := (Run.steps?_singleton ..).trans hStep
  refine ⟨?_, fun entry hEntry => ?_, fun place hPlace => ?_, h.lost⟩
  · rw [Run.length_workers_of_steps? hRun]
    exact h.places
  · obtain ⟨w, hFound, hReport⟩ := h.finished entry hEntry
    exact ⟨w, (Run.steps?_over hRun hFound (.inl (Worker.stopped_of_report? hReport))).1, hReport⟩
  · obtain ⟨w, hFound, hPhase⟩ := h.losses place hPlace
    exact ⟨w, (Run.steps?_over hRun hFound (.inr hPhase)).1, hPhase⟩

theorem Collated.move {o o' : Orchestration} {step : Step} (h : o.Collated) (hMoves : o.Moves step o') :
    o'.Collated := by
  cases hMoves with
  | run hStage hStep =>
    cases hAt : o.stage with
    | running => simpa only [Collated, hAt] using h
    | joining left =>
      simp only [Collated, hAt] at h ⊢
      obtain ⟨gone, h⟩ := h
      have hRun := h.run hStep
      exact ⟨gone, hRun.places, hRun.finished, hRun.losses, hRun.lost⟩
    | returned summary => simp [summary?, hAt] at hStage
  | shutdown hStage | noticeStop hStage =>
    rw [Collated, hStage] at h
    refine ⟨[], ⟨?_, ?_, by simp, h.2.symm⟩⟩ <;> simp [wind, h.1]
  | @collect place _ left w hStage hPlace hFound hPhase =>
    rw [Collated, hStage] at h
    obtain ⟨gone, h⟩ := h
    refine ⟨gone, ⟨?_, ?_, h.losses, h.lost⟩⟩
    · refine .trans ?_ h.places
      simp only [List.map_append, List.map_cons, List.map_nil, List.append_assoc, List.cons_append,
        List.nil_append]
      refine .append_left _ (List.perm_middle.symm.trans (.append_left _ ?_))
      exact (List.perm_cons_erase hPlace).symm
    · intro entry hEntry
      rcases List.mem_append.mp hEntry with hEntry | hEntry
      · exact h.finished entry hEntry
      · obtain rfl := List.mem_singleton.mp hEntry
        exact ⟨w, hFound, Worker.report?_of_stopped hPhase⟩
  | @lose place _ left w hStage hPlace hFound hPhase =>
    rw [Collated, hStage] at h
    obtain ⟨gone, h⟩ := h
    refine ⟨gone ++ [place], ⟨?_, h.finished, ?_, by simp [h.lost]⟩⟩
    · refine .trans ?_ h.places
      simp only [List.append_assoc, List.cons_append, List.nil_append]
      exact .append_left _ (.append_left _ (List.perm_cons_erase hPlace).symm)
    · intro other hOther
      rcases List.mem_append.mp hOther with hOther | hOther
      · exact h.losses other hOther
      · obtain rfl := List.mem_singleton.mp hOther
        exact ⟨w, hFound, hPhase⟩
  | finish hStage =>
    rw [Collated, hStage] at h
    exact ⟨rfl, h.imp fun gone h => ⟨h.places, h.finished, h.losses, h.lost⟩⟩

theorem filterMap_range_getElem? {α β : Type} (items : List α) (shown : α → Option β) :
    ((List.range items.length).filterMap fun place => items[place]?.bind shown) =
      items.filterMap shown := by
  induction items with
  | nil => rfl
  | cons item items ih =>
    rw [List.length_cons, List.range_succ_eq_map, List.filterMap_cons, List.filterMap_map]
    simp only [List.getElem?_cons_zero, Option.bind_some, List.filterMap_cons]
    rw [← ih]
    rfl

def reported? (o : Orchestration) (place : Nat) : Option (Nat × Report) :=
  o.run.workers[place]?.bind fun w => w.report?.map fun report => (place, report)

theorem fst_of_reported? {o : Orchestration} {place : Nat} {entry : Nat × Report}
    (h : o.reported? place = some entry) : entry.1 = place := by
  obtain ⟨w, -, h⟩ := Option.bind_eq_some_iff.mp h
  obtain ⟨report, -, rfl⟩ := Option.map_eq_some_iff.mp h
  rfl

theorem Gathered.reported? {o : Orchestration} {gone left : List Nat} (h : o.Gathered gone left)
    {entry : Nat × Report} (hEntry : entry ∈ o.finished) : o.reported? entry.1 = some entry := by
  obtain ⟨w, hFound, hReport⟩ := h.finished entry hEntry
  simp [Orchestration.reported?, hFound, hReport]

theorem Gathered.perm_finished {o : Orchestration} {gone : List Nat} (h : o.Gathered gone []) :
    o.finished.Perm ((List.range o.run.workers.length).filterMap o.reported?) := by
  have hReports : (o.finished.map (·.1)).filterMap o.reported? = o.finished := by
    rw [List.filterMap_map]
    exact (List.filterMap_congr fun entry hEntry => h.reported? hEntry).trans List.filterMap_some
  have hLosses : gone.filterMap o.reported? = [] := by
    refine List.filterMap_eq_nil_iff.mpr fun place hPlace => ?_
    obtain ⟨w, hFound, hPhase⟩ := h.losses place hPlace
    simp [Orchestration.reported?, hFound, Worker.report?, hPhase]
  have hAll := h.places.filterMap o.reported?
  rwa [List.append_nil, List.filterMap_append, hReports, hLosses, List.append_nil] at hAll

/-- The reports are in the order of the workers, whatever the order in which they came. -/
theorem Gathered.reports_eq {o : Orchestration} {gone : List Nat} (h : o.Gathered gone []) :
    o.summary.reports = o.run.workers.filterMap Worker.report? := by
  have hPerm := List.mergeSort_perm o.finished fun a b => decide (a.1 ≤ b.1)
  have hSorted : (o.finished.mergeSort fun a b => a.1 ≤ b.1).Pairwise fun a b => a.1 ≤ b.1 := by
    refine .imp of_decide_eq_true (List.pairwise_mergeSort ?_ ?_ o.finished)
    · exact fun a b c => by simpa using Nat.le_trans
    · exact fun a b => by simpa using Nat.le_total a.1 b.1
  have hRange : ((List.range o.run.workers.length).filterMap o.reported?).Pairwise
      fun a b => a.1 ≤ b.1 := by
    refine List.pairwise_lt_range.filterMap _ fun a a' hLt b hb b' hb' => ?_
    rw [fst_of_reported? hb, fst_of_reported? hb']
    exact Nat.le_of_lt hLt
  -- Two entries of one place are one entry.
  have hEq : (o.finished.mergeSort fun a b => a.1 ≤ b.1) =
      (List.range o.run.workers.length).filterMap o.reported? := by
    refine List.Perm.eq_of_pairwise (fun a b ha hb hab hba => ?_) hSorted hRange
      (hPerm.trans h.perm_finished)
    obtain ⟨place, -, hPlace⟩ := List.mem_filterMap.mp hb
    obtain rfl := fst_of_reported? hPlace
    have hEntry := h.reported? (hPerm.mem_iff.mp ha)
    rw [Nat.le_antisymm hab hba, hPlace] at hEntry
    exact (Option.some.inj hEntry).symm
  have hReports : ∀ place, (o.reported? place).map (·.2) =
      o.run.workers[place]?.bind Worker.report? := by
    simp [Orchestration.reported?, Option.map_bind, Function.comp_def]
  simp only [summary, hEq, List.map_filterMap, hReports, filterMap_range_getElem?]

theorem Gathered.all_stopped {o : Orchestration} {gone : List Nat} (h : o.Gathered gone [])
    (hLost : o.lost = 0) : ∀ w ∈ o.run.workers, w.phase = .stopped := by
  obtain rfl := List.length_eq_zero_iff.mp (h.lost.trans hLost)
  intro w hw
  obtain ⟨place, hPlace, rfl⟩ := List.mem_iff_getElem.mp hw
  have hMem : place ∈ o.finished.map (·.1) := by
    simpa using h.places.mem_iff.mpr (List.mem_range.mpr hPlace)
  obtain ⟨entry, hEntry, rfl⟩ := List.mem_map.mp hMem
  obtain ⟨w, hFound, hReport⟩ := h.finished entry hEntry
  obtain rfl : o.run.workers[entry.1] = w := by simpa [hPlace] using hFound
  exact Worker.stopped_of_report? hReport

section Launched

variable {users : Draw String} {catalog : Catalog} {events queries : Pool} {source : Nat → Source}

theorem run_of_launch {client : Nat → Except Error Unit} {o : Orchestration}
    (h : launch users catalog events queries source client = .ok o) :
    o.run = Run.ofWorkers (crew users catalog events queries source) ∧ o.Collated := by
  simp only [launch, bind, Except.bind] at h
  split at h
  · cases h
  · cases h
    exact ⟨rfl, rfl, rfl⟩

theorem length_crew (users : Draw String) (catalog : Catalog) (events queries : Pool)
    (source : Nat → Source) :
    (crew users catalog events queries source).length = events.workers + queries.workers := by
  simp [crew, pool]

theorem isNew_of_mem_crew {w : Worker}
    (h : w ∈ crew users catalog events queries source) : w.IsNew := by
  rcases List.mem_append.mp h with h | h <;>
    obtain ⟨i, -, rfl⟩ := List.mem_map.mp h <;>
    exact ⟨rfl, rfl, rfl⟩

/-- The worker at a place has the name, the rate, the URL and the workload of its pool. -/
theorem assignment_of_crew {place : Nat} {w : Worker}
    (h : (crew users catalog events queries source)[place]? = some w) :
    (place < events.workers → w.assignment =
      ⟨"E" ++ natText (place + 1), events.rate, events.baseUrl, .events users catalog⟩) ∧
    (events.workers ≤ place → w.assignment =
      ⟨"R" ++ natText (place - events.workers + 1), queries.rate, queries.baseUrl, .queries⟩) := by
  have hLength : (pool "E" (.events users catalog) source events).length = events.workers := by simp [pool]
  constructor <;> intro hPlace
  · rw [crew, List.getElem?_append_left (hLength ▸ hPlace), pool, List.getElem?_map,
      List.getElem?_range hPlace] at h
    cases h
    rfl
  · rw [crew, List.getElem?_append_right (hLength ▸ hPlace), hLength, pool, List.getElem?_map,
      Option.map_eq_some_iff] at h
    obtain ⟨i, hRange, rfl⟩ := h
    obtain ⟨-, rfl⟩ := List.getElem?_eq_some_iff.mp hRange
    rw [List.getElem_range]

theorem collated_of_returned {client : Nat → Except Error Unit} {o o' : Orchestration}
    {steps : List Step} {summary : Summary}
    (hLaunch : launch users catalog events queries source client = .ok o)
    (hRun : o.steps? steps = some o') (hReturned : o'.summary? = some summary) :
    summary = o'.summary ∧ ∃ gone, o'.Gathered gone [] := by
  have h := steps?_preserves (P := Collated) (fun h hMoves => h.move hMoves)
    (run_of_launch hLaunch).2 hRun
  unfold summary? at hReturned
  split at hReturned
  · cases hReturned
    simpa [Collated, *] using h
  · cases hReturned

end Launched

end Orchestration
end ApiLoad
