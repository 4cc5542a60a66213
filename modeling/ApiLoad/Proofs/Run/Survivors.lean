import ApiLoad.Proofs.Number.Numeral
import ApiLoad.Proofs.Run.Conservation
import Mathlib.Data.List.Nodup

/-!
# The survivors of a run

An orchestration returns when every worker has stopped or is lost. Its summary has the reports of
those that stopped, in the order in which the workers were made, and the number of the others, each of
which is an error in the log. Nothing of this depends on the order in which the workers ended.
-/
set_option autoImplicit false

namespace ApiLoad

namespace Worker

def isLost (w : Worker) : Bool :=
  match w.phase with
  | .lost => true
  | _ => false

/-- The worker does nothing any more. -/
def IsOver (w : Worker) : Prop := w.phase = .stopped ∨ w.phase = .lost

theorem IsOver.report?_eq {w : Worker} (h : w.IsOver) :
    w.report? = if w.isLost then none else some w.report := by
  rcases h with h | h <;> simp [report?, isLost, h]

theorem filterMap_report? {workers : List Worker} (h : ∀ w ∈ workers, w.IsOver) :
    workers.filterMap report? = (workers.filter (!·.isLost)).map report := by
  rw [List.filterMap_congr fun w hw => (h w hw).report?_eq, ← List.filterMap_eq_map,
    List.filterMap_filter]
  refine List.filterMap_congr fun w _ => ?_
  cases w.isLost <;> rfl

end Worker

namespace Orchestration

def names (events queries : Pool) : List String :=
  ((List.range events.workers).map fun i => "E" ++ natText (i + 1)) ++
    (List.range queries.workers).map fun i => "R" ++ natText (i + 1)

theorem map_name_crew (users : Draw String) (catalog : Catalog) (events queries : Pool)
    (source : Nat → Source) :
    (crew users catalog events queries source).map (·.assignment.name) = names events queries := by
  simp [crew, pool, names, Function.comp_def]

theorem nodup_names (events queries : Pool) : (names events queries).Nodup := by
  have hNumbered (letter : String) (count : Nat) :
      ((List.range count).map fun i => letter ++ natText (i + 1)).Nodup :=
    List.nodup_range.map fun i j h =>
      Nat.succ.inj (natText_injective ((String.append_right_inj letter).mp h))
  refine List.nodup_append.mpr ⟨hNumbered "E" _, hNumbered "R" _, fun a ha b hb hSame => ?_⟩
  obtain ⟨i, -, rfl⟩ := List.mem_map.mp ha
  obtain ⟨j, -, rfl⟩ := List.mem_map.mp hb
  have hLetter := congrArg (fun name => name.toList.head?) hSame
  simp at hLetter

def lossLine (loss : String) : Log.Entry := Log.error ("Worker task failed: " ++ loss)

/-- What a step tells of the worker that it joins, if that is one of the lost. -/
def loss? (r : Run) : Step → Option String
  | .join place loss => if r.workers[place]?.any Worker.isLost then some loss else none
  | _ => none

/-- A step writes one error for each lost worker that it joins. Whether a worker is lost can be seen at any
later time, as it is over. -/
theorem Moves.losses {o between : Orchestration} {step : Step} (h : o.Moves step between)
    {later : List Run.Step} {r : Run} (hLater : between.run.steps? later = some r) :
    between.log.filter (·.level = .error) =
        o.log.filter (·.level = .error) ++ (loss? r step).toList.map lossLine ∧
      between.lost = o.lost + (loss? r step).toList.length := by
  cases h with
  | run | finish => simp [loss?]
  | shutdown | noticeStop => simp [loss?, wind, Log.info]
  | collect _ _ hFound hPhase =>
    have hFound := (Run.steps?_over hLater hFound (.inl hPhase)).1
    simp [loss?, hFound, Worker.isLost, hPhase]
  | lose _ _ hFound hPhase =>
    have hFound := (Run.steps?_over hLater hFound (.inr hPhase)).1
    simp [loss?, hFound, Worker.isLost, hPhase, lossLine, Log.error]

theorem losses_of_steps? {o o' : Orchestration} {steps : List Step} (hRun : o.steps? steps = some o') :
    o'.log.filter (·.level = .error) =
        o.log.filter (·.level = .error) ++ (steps.filterMap (loss? o'.run)).map lossLine ∧
      o'.lost = o.lost + (steps.filterMap (loss? o'.run)).length := by
  induction steps generalizing o with
  | nil =>
    cases hRun
    simp
  | cons step steps ih =>
    simp only [steps?, List.foldlM_cons, Option.bind_eq_bind, Option.bind_eq_some_iff] at hRun
    obtain ⟨between, hFirst, hRest⟩ := hRun
    obtain ⟨hLog, hLost⟩ := (moves_of_step? hFirst).losses (steps?_ofRun hRest)
    obtain ⟨hLogRest, hLostRest⟩ := ih hRest
    rw [hLogRest, hLostRest, hLog, hLost]
    cases hLoss : loss? o'.run step <;> simp [hLoss, Nat.add_assoc, Nat.add_comm]

theorem Gathered.all_over {o : Orchestration} {gone : List Nat} (h : o.Gathered gone []) :
    ∀ w ∈ o.run.workers, w.IsOver := by
  intro w hw
  obtain ⟨place, hPlace, rfl⟩ := List.mem_iff_getElem.mp hw
  have hMem : place ∈ o.finished.map (·.1) ++ gone := by
    simpa using h.places.mem_iff.mpr (List.mem_range.mpr hPlace)
  rcases List.mem_append.mp hMem with hMem | hMem
  · obtain ⟨entry, hEntry, rfl⟩ := List.mem_map.mp hMem
    obtain ⟨w, hFound, hReport⟩ := h.finished entry hEntry
    obtain rfl : o.run.workers[entry.1] = w := by simpa [hPlace] using hFound
    exact .inl (Worker.stopped_of_report? hReport)
  · obtain ⟨w, hFound, hPhase⟩ := h.losses place hMem
    obtain rfl : o.run.workers[place] = w := by simpa [hPlace] using hFound
    exact .inr hPhase

theorem Gathered.length_reports {o : Orchestration} {gone : List Nat} (h : o.Gathered gone []) :
    o.summary.reports.length + o.lost = o.run.workers.length := by
  have hLength := h.places.length_eq
  simp only [List.append_nil, List.length_append, List.length_map, List.length_range, h.lost] at hLength
  simpa [summary] using hLength

theorem Gathered.lost_eq {o : Orchestration} {gone : List Nat} (h : o.Gathered gone []) :
    o.lost = o.run.workers.countP Worker.isLost := by
  have hAll := h.length_reports
  have hSplit := List.length_eq_countP_add_countP Worker.isLost (l := o.run.workers)
  rw [h.reports_eq, Worker.filterMap_report? h.all_over, List.length_map,
    ← List.countP_eq_length_filter] at hAll
  simp only [Bool.not_eq_true, Bool.decide_eq_false] at hSplit
  omega

theorem Gathered.map_name_reports {o : Orchestration} {gone : List Nat} (h : o.Gathered gone []) :
    o.summary.reports.map (·.name) = (o.run.workers.filter (!·.isLost)).map (·.assignment.name) := by
  rw [h.reports_eq, Worker.filterMap_report? h.all_over, List.map_map]
  rfl

theorem steps?_cons (o : Orchestration) (step : Step) (steps : List Step) :
    o.steps? (step :: steps) = (o.step? step).bind fun o => o.steps? steps := by
  simp [steps?, List.foldlM_cons]

theorem steps?_append (o : Orchestration) (first second : List Step) :
    o.steps? (first ++ second) = (o.steps? first).bind fun o => o.steps? second := by
  simp [steps?, List.foldlM_append]

theorem exists_join {o : Orchestration} {left : List Nat} {place : Nat} (hStage : o.stage = .joining left)
    (hPlace : place ∈ left) {w : Worker} (hFound : o.run.workers[place]? = some w) (hOver : w.IsOver)
    (loss : String) : ∃ o', o.step? (.join place loss) = some o' ∧
      o'.stage = .joining (left.erase place) ∧ o'.run = o.run := by
  rcases hOver with hPhase | hPhase
  · exact ⟨_, (Moves.collect hStage hPlace hFound hPhase).step?, rfl, rfl⟩
  · exact ⟨_, (Moves.lose hStage hPlace hFound hPhase).step?, rfl, rfl⟩

/-- Workers that are over can be joined in any order, and then the orchestration returns. -/
theorem exists_return {o : Orchestration} {left order : List Nat} (hStage : o.stage = .joining left)
    (hOver : ∀ place ∈ left, ∃ w, o.run.workers[place]? = some w ∧ w.IsOver) (hOrder : order.Perm left)
    (loss : Nat → String) :
    ∃ o' summary, o.steps? (order.map (fun place => .join place (loss place)) ++ [.finish]) = some o' ∧
      o'.run = o.run ∧ o'.summary? = some summary := by
  induction order generalizing o left with
  | nil =>
    obtain rfl := hOrder.nil_eq
    refine ⟨{ o with stage := .returned o.summary }, o.summary, ?_, rfl, rfl⟩
    rw [List.map_nil, List.nil_append, steps?_cons, (Moves.finish hStage).step?]
    rfl
  | cons place order ih =>
    have hPlace := hOrder.mem_iff.mp List.mem_cons_self
    obtain ⟨w, hFound, hEnded⟩ := hOver place hPlace
    obtain ⟨joined, hJoin, hStage', hRun⟩ := exists_join hStage hPlace hFound hEnded (loss place)
    obtain ⟨o', summary, hSteps, hRun', hSummary⟩ := ih hStage'
      (fun other hOther => hRun ▸ hOver other (List.mem_of_mem_erase hOther))
      (List.cons_perm_iff_perm_erase.mp hOrder).2
    refine ⟨o', summary, ?_, hRun'.trans hRun, hSummary⟩
    rw [List.map_cons, List.cons_append, steps?_cons, hJoin]
    exact hSteps

section Launched

variable {users : Draw String} {catalog : Catalog} {events queries : Pool} {source : Nat → Source}
  {client : Nat → Except Error Unit} {o o' : Orchestration} {steps : List Step}

theorem map_name_workers (hLaunch : launch users catalog events queries source client = .ok o)
    (hRun : o.steps? steps = some o') :
    o'.run.workers.map (·.assignment.name) = names events queries := by
  rw [← map_name_crew users catalog events queries source]
  refine List.ext_getElem? fun place => ?_
  rw [List.getElem?_map, List.getElem?_map]
  cases hFound : o'.run.workers[place]? with
  | none =>
    have hLength := List.getElem?_eq_none_iff.mp hFound
    rw [length_workers hLaunch hRun, ← length_crew users catalog events queries source] at hLength
    rw [List.getElem?_eq_none hLength]
  | some w =>
    obtain ⟨v, hCrew, hAssignment, -⟩ := follows_of_steps? hLaunch hRun hFound
    rw [hCrew, Option.map_some, Option.map_some, hAssignment]

theorem losses_of_launch (h : launch users catalog events queries source client = .ok o) :
    o.log.filter (·.level = .error) = [] ∧ o.lost = 0 := by
  simp only [launch, bind, Except.bind] at h
  split at h <;> cases h
  exact ⟨rfl, rfl⟩

theorem left_lt_of_joining (hLaunch : launch users catalog events queries source client = .ok o)
    (hRun : o.steps? steps = some o') {left : List Nat} (hStage : o'.stage = .joining left) :
    ∀ place ∈ left, place < o'.run.workers.length := by
  have hCollated := steps?_preserves (P := Collated) (fun h hMoves => h.move hMoves)
    (run_of_launch hLaunch).2 hRun
  rw [Collated, hStage] at hCollated
  obtain ⟨gone, hGathered⟩ := hCollated
  exact fun place hPlace => List.mem_range.mp (hGathered.places.mem_iff.mp (by simp [hPlace]))

/-- Runs whose workers end alike return alike. -/
theorem summary_of_alike (hLaunch : launch users catalog events queries source client = .ok o)
    (hRun : o.steps? steps = some o') {others : List Step} {other : Orchestration}
    (hOther : o.steps? others = some other) {first second : Summary}
    (hFirst : o'.summary? = some first) (hSecond : other.summary? = some second)
    (hAlike : other.run.workers.map Worker.report? = o'.run.workers.map Worker.report?) :
    second.reports = first.reports ∧ second.lost = first.lost := by
  obtain ⟨rfl, gone, hGathered⟩ := collated_of_returned hLaunch hRun hFirst
  obtain ⟨rfl, gone', hGathered'⟩ := collated_of_returned hLaunch hOther hSecond
  have hView (workers : List Worker) :
      workers.filterMap Worker.report? = (workers.map Worker.report?).filterMap id := by
    rw [List.filterMap_map]
    rfl
  have hReports : other.summary.reports = o'.summary.reports := by
    rw [hGathered.reports_eq, hGathered'.reports_eq, hView, hView, hAlike]
  have hAll := hGathered.length_reports
  have hAll' := hGathered'.length_reports
  rw [hReports, length_workers hLaunch hOther] at hAll'
  rw [length_workers hLaunch hRun] at hAll
  refine ⟨hReports, ?_⟩
  change other.lost = o'.lost
  omega

/-- Collation of the reports, however the workers' ends and the joins are ordered. At the return every
worker is over, those that stopped are reported under their names in the order of their making, and
those that are lost are counted and logged with what is told of them. Workers that are over are joined in
any order. Runs whose workers end alike have the same reports and totals. -/
theorem reports_are_collated (hLaunch : launch users catalog events queries source client = .ok o)
    (hRun : o.steps? steps = some o') :
    o'.run.workers.map (·.assignment.name) = names events queries ∧
    (∀ summary, o'.summary? = some summary →
      (∀ w ∈ o'.run.workers, w.IsOver) ∧
      summary.reports = o'.run.workers.filterMap Worker.report? ∧
      summary.reports.map (·.name) =
        (o'.run.workers.filter (!·.isLost)).map (·.assignment.name) ∧
      (summary.reports.map (·.name)).Nodup ∧
      summary.lost = o'.run.workers.countP Worker.isLost ∧
      summary.reports.length + summary.lost = events.workers + queries.workers ∧
      (steps.filterMap (loss? o'.run)).length = summary.lost ∧
      o'.log.filter (·.level = .error) = (steps.filterMap (loss? o'.run)).map lossLine) ∧
    (∀ (left order : List Nat) (loss : Nat → String), o'.stage = .joining left →
      (∀ w ∈ o'.run.workers, w.IsOver) → order.Perm left → ∃ ended summary,
        o'.steps? (order.map (fun place => .join place (loss place)) ++ [.finish]) = some ended ∧
        ended.run = o'.run ∧ ended.summary? = some summary) ∧
    (∀ others other first second, o.steps? others = some other → o'.summary? = some first →
      other.summary? = some second →
      other.run.workers.map Worker.report? = o'.run.workers.map Worker.report? →
      second.reports = first.reports ∧ second.lost = first.lost ∧
      second.totalSent? = first.totalSent? ∧ second.totalFailed? = first.totalFailed?) := by
  have hNames := map_name_workers hLaunch hRun
  refine ⟨hNames, fun summary hReturned => ?_, fun left order loss hStage hOver hOrder => ?_,
    fun others other first second hOther hFirst hSecond hAlike => ?_⟩
  · obtain ⟨rfl, gone, hGathered⟩ := collated_of_returned hLaunch hRun hReturned
    refine ⟨hGathered.all_over, hGathered.reports_eq, hGathered.map_name_reports, ?_, hGathered.lost_eq,
      hGathered.length_reports.trans (length_workers hLaunch hRun), ?_⟩
    · rw [hGathered.map_name_reports]
      exact (List.filter_sublist.map _).nodup (hNames ▸ nodup_names events queries)
    · obtain ⟨hLog, hLost⟩ := losses_of_steps? hRun
      rw [(losses_of_launch hLaunch).1, List.nil_append] at hLog
      rw [(losses_of_launch hLaunch).2, Nat.zero_add] at hLost
      exact ⟨hLost.symm, hLog⟩
  · refine exists_return hStage (fun place hPlace => ?_) hOrder loss
    have hBound := left_lt_of_joining hLaunch hRun hStage place hPlace
    exact ⟨_, List.getElem?_eq_getElem hBound, hOver _ (List.getElem_mem hBound)⟩
  · obtain ⟨hReports, hLost⟩ := summary_of_alike hLaunch hRun hOther hFirst hSecond hAlike
    refine ⟨hReports, hLost, ?_, ?_⟩
    · rw [Summary.totalSent?, hReports, Summary.totalSent?]
    · rw [Summary.totalFailed?, hReports, Summary.totalFailed?]

end Launched

namespace Loss

/-- The second of two workers is lost, the first leaves, and both are still to be joined. -/
def steps : List Step :=
  [Duo.act 0 .start, Duo.act 1 .start, Duo.act 1 .crash, .shutdown, Duo.act 0 .leave]

def joining : Orchestration := (Duo.launched.steps? steps).get rfl

def ended : Orchestration := (Duo.launched.steps? (steps ++ [.join 1 "panic", .join 0 "", .finish])).get rfl

def summary : Summary := ended.summary?.get rfl

theorem steps_eq : Duo.launched.steps? steps = some joining := (Option.some_get _).symm

theorem ended_eq : Duo.launched.steps? (steps ++ [.join 1 "panic", .join 0 "", .finish]) = some ended :=
  (Option.some_get _).symm

theorem summary_eq : ended.summary? = some summary := (Option.some_get _).symm

end Loss

/-- The first worker is reported and the second counted as lost, whichever of them is joined first. -/
theorem collation_of_loss :
    launch Duo.users Duo.catalog Duo.pool Duo.pool (fun _ => .cyclic #[0]) (fun _ => .ok ()) =
      .ok Duo.launched ∧
    Duo.launched.steps? (Loss.steps ++ [.join 1 "panic", .join 0 "", .finish]) = some Loss.ended ∧
    Loss.ended.summary? = some Loss.summary ∧
    Loss.summary.reports.map (·.name) = ["E1"] ∧ Loss.summary.lost = 1 ∧
    Loss.ended.log.filter (·.level = .error) = [Log.error "Worker task failed: panic"] ∧
    ∃ other second, Loss.joining.steps? [.join 0 "", .join 1 "", .finish] = some other ∧
      other.summary? = some second ∧ second.reports = Loss.summary.reports := by
  have hEnded := reports_are_collated Duo.launch_eq Loss.ended_eq
  have hJoining := reports_are_collated Duo.launch_eq Loss.steps_eq
  obtain ⟨-, -, hNames, -, hLost, -, -, hErrors⟩ := hEnded.2.1 _ Loss.summary_eq
  have hOver : ∀ w ∈ Loss.joining.run.workers, w.IsOver := by
    intro w hw
    have hPhases : Loss.joining.run.workers.map (·.phase) = [.stopped, .lost] := rfl
    have hPhase := List.mem_map_of_mem (f := (·.phase)) hw
    rw [hPhases] at hPhase
    simpa [Worker.IsOver] using hPhase
  obtain ⟨other, second, hOther, hRun, hSecond⟩ :=
    hJoining.2.2.1 [0, 1] [0, 1] (fun _ => "") rfl hOver (.refl _)
  have hAll : Duo.launched.steps? (Loss.steps ++ [.join 0 "", .join 1 "", .finish]) = some other := by
    rw [steps?_append, Loss.steps_eq]
    exact hOther
  refine ⟨Duo.launch_eq, Loss.ended_eq, Loss.summary_eq, hNames.trans (by decide +kernel), hLost.trans rfl,
    hErrors.trans (by decide +kernel), other, second, hOther, hSecond, ?_⟩
  exact (hEnded.2.2.2 _ other _ second hAll Loss.summary_eq hSecond (by rw [hRun]; rfl)).1

end Orchestration
end ApiLoad
