import ApiLoad.Proofs.Counter
import ApiLoad.Proofs.Run.Collation
import ApiLoad.Proofs.Run.Journal

/-!
# Conservation of traffic

When an orchestration has returned and no worker is lost, the reports account for the traffic: each
tells the posts of its worker, one after another and every one of them brought to its outcome, the
totals are those of the whole journal, and nothing is posted afterwards.
-/
set_option autoImplicit false

namespace ApiLoad

namespace Run

/-- How the posts of all workers ended, in the order of their ends. -/
def outcomes (r : Run) : List Outcome := r.journal.filterMap (·.2.outcome?)

def failures (r : Run) : List String := r.journal.filterMap (·.2.failure?)

theorem length_failures_le (r : Run) : r.failures.length ≤ r.outcomes.length := by
  have h : r.failures = r.outcomes.filterMap Outcome.failure? := by
    rw [outcomes, List.filterMap_filterMap]
    rfl
  rw [h]
  exact List.length_filterMap_le ..

theorem journal_of_all_over {r r' : Run} {steps : List Step}
    (hOver : ∀ w ∈ r.workers, w.phase = .stopped ∨ w.phase = .lost) (hRun : r.steps? steps = some r') :
    r'.journal = r.journal := by
  refine (steps?_preserves (P := fun r' => r'.workers = r.workers ∧ r'.journal = r.journal)
    ?_ ⟨rfl, rfl⟩ hRun).2
  rintro r₁ r₂ step ⟨hWorkers, hJournal⟩ hStep
  cases step with
  | elapse | cancel =>
    cases hStep
    exact ⟨hWorkers, hJournal⟩
  | act place action =>
    obtain ⟨w, w', ids, events, hFound, hAct, -⟩ := step?_act hStep
    rw [hWorkers] at hFound
    exact absurd (hOver w (List.mem_of_getElem? hFound)) (not_or.mpr hAct.not_over)

end Run

theorem Worker.Follows.events_of_stopped {w : Worker} {rounds : List Round} {events : List Event}
    (h : w.Follows rounds events) (hStopped : w.phase = .stopped) :
    events = w.assignment.record rounds ++ [.stopped w.sent w.failed] := by
  obtain ⟨hCourse, hSent, hFailed⟩ := h
  rw [hStopped] at hCourse
  cases hCourse
  rw [hSent, hFailed]

theorem Worker.Follows.counts_of_stopped {w : Worker} {rounds : List Round} {events : List Event}
    (h : w.Follows rounds events) (hStopped : w.phase = .stopped) :
    (events.filterMap Event.post?).length = w.sent ∧
      (events.filterMap Event.outcome?).length = w.sent ∧
      (events.filterMap Event.failure?).length = w.failed := by
  have hFailure : Event.failure? = fun event => event.outcome?.bind Outcome.failure? := rfl
  rw [h.events_of_stopped hStopped, h.sent, h.failed, hFailure, ← List.filterMap_filterMap]
  simp [Event.post?, Event.outcome?, Round.failures, List.filterMap_map]

namespace Orchestration

section Launched

variable {users : Draw String} {catalog : Catalog} {events queries : Pool} {source : Nat → Source}
  {client : Nat → Except Error Unit} {o o' : Orchestration} {steps : List Step} {summary : Summary}

theorem follows_of_steps? (hLaunch : launch users catalog events queries source client = .ok o)
    (hRun : o.steps? steps = some o') {place : Nat} {w : Worker}
    (hFound : o'.run.workers[place]? = some w) :
    ∃ v, (crew users catalog events queries source)[place]? = some v ∧ w.assignment = v.assignment ∧
      ∃ rounds, w.Follows rounds (o'.run.eventsOf place) := by
  obtain ⟨runSteps, hRunSteps⟩ := steps?_run hRun
  rw [(run_of_launch hLaunch).1] at hRunSteps
  exact Run.follows_of_steps? (fun w hw => isNew_of_mem_crew hw) hRunSteps hFound

theorem placed_of_steps? (hLaunch : launch users catalog events queries source client = .ok o)
    (hRun : o.steps? steps = some o') : o'.run.Placed := by
  obtain ⟨runSteps, hRunSteps⟩ := steps?_run hRun
  rw [(run_of_launch hLaunch).1] at hRunSteps
  exact Run.placed_of_steps? hRunSteps

theorem length_workers (hLaunch : launch users catalog events queries source client = .ok o)
    (hRun : o.steps? steps = some o') : o'.run.workers.length = events.workers + queries.workers := by
  obtain ⟨runSteps, hRunSteps⟩ := steps?_run hRun
  rw [(run_of_launch hLaunch).1] at hRunSteps
  exact (Run.length_workers_of_steps? hRunSteps).trans (length_crew ..)

theorem reports_of_none_lost (hLaunch : launch users catalog events queries source client = .ok o)
    (hRun : o.steps? steps = some o') (hReturned : o'.summary? = some summary)
    (hLost : summary.lost = 0) :
    (∀ w ∈ o'.run.workers, w.phase = .stopped) ∧
      summary.reports = o'.run.workers.map Worker.report := by
  obtain ⟨rfl, gone, hGathered⟩ := collated_of_returned hLaunch hRun hReturned
  have hStopped := hGathered.all_stopped hLost
  refine ⟨hStopped, hGathered.reports_eq.trans ?_⟩
  rw [← List.filterMap_eq_map']
  exact List.filterMap_congr fun w hw => Worker.report?_of_stopped (hStopped w hw)

theorem totals_of_all_stopped (hLaunch : launch users catalog events queries source client = .ok o)
    (hRun : o.steps? steps = some o') (hStopped : ∀ w ∈ o'.run.workers, w.phase = .stopped) :
    (o'.run.workers.map (·.sent)).sum = o'.run.posts.length ∧
      (o'.run.workers.map (·.sent)).sum = o'.run.outcomes.length ∧
      (o'.run.workers.map (·.failed)).sum = o'.run.failures.length := by
  have hPlaced := placed_of_steps? hLaunch hRun
  have hCounts : ∀ place w, o'.run.workers[place]? = some w →
      ((o'.run.eventsOf place).filterMap Event.post?).length = w.sent ∧
        ((o'.run.eventsOf place).filterMap Event.outcome?).length = w.sent ∧
        ((o'.run.eventsOf place).filterMap Event.failure?).length = w.failed := by
    intro place w hFound
    obtain ⟨-, -, -, rounds, hFollows⟩ := follows_of_steps? hLaunch hRun hFound
    exact hFollows.counts_of_stopped (hStopped w (List.mem_of_getElem? hFound))
  refine ⟨?_, ?_, ?_⟩
  · exact (Run.length_filterMap_journal hPlaced Event.post? fun place w h => (hCounts place w h).1).symm
  · exact (Run.length_filterMap_journal hPlaced Event.outcome? fun place w h =>
      (hCounts place w h).2.1).symm
  · exact (Run.length_filterMap_journal hPlaced Event.failure? fun place w h =>
      (hCounts place w h).2.2).symm

/-- Conservation of traffic. A report is given for every worker, and it tells exactly what the worker
did: rounds one after another, each a post with its outcome, and nothing besides. The totals are those
of all workers, and whatever the workers could still do, nothing more is posted. -/
theorem traffic_is_conserved (hLaunch : launch users catalog events queries source client = .ok o)
    (hRun : o.steps? steps = some o') (hReturned : o'.summary? = some summary)
    (hLost : summary.lost = 0) :
    summary.reports.length = events.workers + queries.workers ∧
    (∀ place report, summary.reports[place]? = some report →
      ∃ w rounds, (crew users catalog events queries source)[place]? = some w ∧
        report.name = w.assignment.name ∧
        o'.run.eventsOf place = w.assignment.record rounds ++ [.stopped report.sent report.failed] ∧
        o'.run.postsOf place = rounds.map (·.post) ∧ report.sent = rounds.length ∧
        report.failed = (Round.failures rounds).length) ∧
    o'.run.outcomes.length = o'.run.posts.length ∧
    (o'.run.posts.length < Counter.limit →
      summary.totalSent? = some o'.run.posts.length ∧
      summary.totalFailed? = some o'.run.failures.length) ∧
    (∀ later r, o'.run.steps? later = some r → r.posts = o'.run.posts) := by
  obtain ⟨hStopped, hReports⟩ := reports_of_none_lost hLaunch hRun hReturned hLost
  obtain ⟨hSent, hEnded, hFailed⟩ := totals_of_all_stopped hLaunch hRun hStopped
  refine ⟨?_, ?_, hEnded.symm.trans hSent, ?_, ?_⟩
  · rw [hReports, List.length_map, length_workers hLaunch hRun]
  · intro place report hReport
    rw [hReports, List.getElem?_map, Option.map_eq_some_iff] at hReport
    obtain ⟨w, hFound, rfl⟩ := hReport
    obtain ⟨v, hCrew, hAssignment, rounds, hFollows⟩ := follows_of_steps? hLaunch hRun hFound
    have hEvents := hFollows.events_of_stopped (hStopped w (List.mem_of_getElem? hFound))
    refine ⟨v, rounds, hCrew, congrArg Assignment.name hAssignment, ?_, ?_, hFollows.sent,
      hFollows.failed⟩
    · rw [hEvents, hAssignment]
      rfl
    · rw [Run.postsOf, hEvents]
      simp [Event.post?]
  · intro hFits
    have hFailedFits : o'.run.failures.length < Counter.limit := by
      have := o'.run.length_failures_le
      omega
    have hSum (count : Report → Nat) :
        summary.reports.map count = o'.run.workers.map fun w => count w.report := by
      rw [hReports, List.map_map]
      rfl
    rw [Summary.totalSent?, Summary.totalFailed?, hSum, hSum, Counter.sum?_eq, Counter.sum?_eq]
    exact ⟨by rw [if_pos (hSent ▸ hFits)]; exact congrArg some hSent,
      by rw [if_pos (hFailed ▸ hFailedFits)]; exact congrArg some hFailed⟩
  · intro later r hLater
    rw [Run.posts, Run.posts,
      Run.journal_of_all_over (fun w hw => .inl (hStopped w hw)) hLater]

end Launched

namespace Duo

def users : Draw String := pure "ada"

def catalog : Catalog := ⟨[⟨"/clicks", .null⟩], List.cons_ne_nil _ _⟩

def pool : Pool := ⟨"http://localhost", 1, .ofNat 1⟩

def launched : Orchestration where
  run := { workers := crew users catalog pool pool fun _ => .cyclic #[0] }
  log := [startLine pool pool]

def act (place : Nat) (action : Action) : Step := .run (.act place action)

/-- The shutdown finds one post under way and one request planned. -/
def steps : List Step :=
  [act 0 .start, act 1 .start, act 1 .tick, act 0 .tick, act 0 (.plan 0), act 0 .post, act 1 (.plan 0),
    .shutdown, act 1 .post, act 0 (.count (.response 500 "" none)), act 0 .check,
    act 1 (.count (.failed "")), act 1 .check, .join 1 "", .join 0 "", .finish]

def ended : Orchestration := (launched.steps? steps).get rfl

def summary : Summary := ended.summary?.get rfl

theorem launch_eq : launch users catalog pool pool (fun _ => .cyclic #[0]) (fun _ => .ok ()) =
    .ok launched := rfl

theorem steps_eq : launched.steps? steps = some ended := (Option.some_get _).symm

theorem summary_eq : ended.summary? = some summary := (Option.some_get _).symm

end Duo

/-- Both posts are counted, and the one without a response has failed. -/
theorem traffic_of_duo :
    launch Duo.users Duo.catalog Duo.pool Duo.pool (fun _ => .cyclic #[0]) (fun _ => .ok ()) =
      .ok Duo.launched ∧
    Duo.launched.steps? Duo.steps = some Duo.ended ∧ Duo.ended.summary? = some Duo.summary ∧
    Duo.summary.lost = 0 ∧ Duo.summary.totalSent? = some 2 ∧ Duo.summary.totalFailed? = some 1 := by
  have hConserved := traffic_is_conserved Duo.launch_eq Duo.steps_eq Duo.summary_eq rfl
  exact ⟨Duo.launch_eq, Duo.steps_eq, Duo.summary_eq, rfl, hConserved.2.2.2.1 (by decide)⟩

end Orchestration
end ApiLoad
