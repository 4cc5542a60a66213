import ApiLoad.Proofs.Run.Survivors
import Mathlib.Data.List.Forall2

/-!
# The log of a run, worker by worker

The lines of all workers are mixed in one log, and each carries the name of its worker. Those of one
name are the start of the worker, one line for each of its posts that has come to its outcome, in their
order, and at the end its stop with the two counts.
-/
set_option autoImplicit false

namespace ApiLoad

def Log.Entry.isFrom (name : String) (line : Log.Entry) : Bool :=
  line.fields.lookup "worker" = some name

/-- What a line says of the end of a post, before all else. -/
def Outcome.told : Outcome → String
  | .response status reason _ => natText status ++ " (" ++ reason ++ ")"
  | .failed message => message

namespace Purpose

def subject (path : String) : Purpose → String
  | .event => "POST " ++ path
  | .query method _ => "RPC " ++ method

def fields : Purpose → List (String × String)
  | .event => []
  | .query _ id => [("id", natText id)]

end Purpose

/-- What a line says after all else: a query that was answered shows how the answer begins. -/
def Round.shown (r : Round) : String :=
  match r.post.request.purpose, r.outcome with
  | .query _ _, .response _ _ preview => " " ++ preview.getD ""
  | _, _ => ""

/-- A line of a worker tells of a round: what was posted, and how it ended. It warns of a failure. -/
structure Round.Told (name : String) (r : Round) (line : Log.Entry) : Prop where
  level : line.level = if r.outcome.isFailure then .warn else .info
  fields : line.fields = ("worker", name) :: r.post.request.purpose.fields
  message : line.message = (if r.outcome.isFailure then "ERROR " else "") ++
    r.post.request.purpose.subject r.post.request.path ++ " -> " ++ r.outcome.told ++ r.shown

def Round.line (name : String) (r : Round) : Log.Entry :=
  Event.outcomeLine name r.post.request r.outcome

theorem Round.told_line (name : String) (r : Round) : r.Told name (r.line name) := by
  obtain ⟨⟨moment, url, path, body, purpose⟩, outcome⟩ := r
  have hApart (whole first second rest : String) (h : whole = first ++ second) :
      whole ++ rest = first ++ (second ++ rest) := by rw [h, String.append_assoc]
  cases purpose <;> cases outcome <;> refine ⟨rfl, rfl, ?_⟩ <;>
    simp only [line, shown, Event.outcomeLine, Outcome.isFailure, Outcome.told, Purpose.subject,
      String.append_assoc, if_true, Bool.false_eq_true, if_false, String.empty_append,
      String.append_empty]
  case event.failed => rw [hApart "ERROR POST " "ERROR " "POST " _ (by decide)]
  case query.response => rw [hApart ") " ")" " " _ (by decide)]
  case query.failed => rw [hApart "ERROR RPC " "ERROR " "RPC " _ (by decide)]

theorem Round.length_warnings (name : String) (rounds : List Round) :
    ((rounds.map (line name)).filter (·.level = .warn)).length = (failures rounds).length := by
  induction rounds with
  | nil => rfl
  | cons r rounds ih =>
    rw [List.map_cons, List.filter_cons, (r.told_line name).level, failures, List.filterMap_cons]
    cases r.outcome <;> simpa [Outcome.isFailure, Outcome.failure?, failures] using ih

namespace Assignment

def startLine (a : Assignment) : Log.Entry :=
  ⟨.info, "worker started",
    [("worker", a.name), ("mode", a.workload.mode), ("rate", a.rate.fieldText), ("target", a.baseUrl)]⟩

def stopLine (a : Assignment) (sent failed : Nat) : Log.Entry :=
  ⟨.info, "worker stopped",
    [("worker", a.name), ("sent", natText sent), ("failed", natText failed)]⟩

/-- The lines of a worker, by its phase, from those that tell of its rounds. Only a worker that has
started has lines, and only one that stopped has a last one. -/
inductive Account (a : Assignment) (told : List Log.Entry) (last : Log.Entry) :
    Phase → List Log.Entry → Prop
  | silent {phase : Phase} (h : phase = .idle ∨ phase = .lost) (hTold : told = []) :
      Account a told last phase []
  | underWay {phase : Phase} (hStarted : phase ≠ .idle) (hStopped : phase ≠ .stopped) :
      Account a told last phase (a.startLine :: told)
  | complete : Account a told last .stopped (a.startLine :: told ++ [last])

theorem filterMap_line?_record (a : Assignment) (rounds : List Round) :
    (a.record rounds).filterMap (Event.line? a.name) = a.startLine :: rounds.map (Round.line a.name) := by
  refine congrArg (a.startLine :: ·) ?_
  induction rounds with
  | nil => rfl
  | cons r rounds ih => rw [List.flatMap_cons, List.filterMap_append, ih]; rfl

theorem Course.account {a : Assignment} {phase : Phase} {rounds : List Round} {events : List Event}
    (h : a.Course phase rounds events) :
    a.Account (rounds.map (Round.line a.name))
      (a.stopLine rounds.length (Round.failures rounds).length) phase
      (events.filterMap (Event.line? a.name)) := by
  induction h with
  | idle => exact .silent (.inl rfl) rfl
  | waiting | ticked | counted =>
    rw [filterMap_line?_record]
    exact .underWay (by simp) (by simp)
  | planned | calling =>
    rw [List.filterMap_append, filterMap_line?_record]
    exact (List.append_nil _).symm ▸ .underWay (by simp) (by simp)
  | stopped =>
    rw [List.filterMap_append, filterMap_line?_record]
    exact .complete
  | @lost _ _ events hStopped _ ih =>
    generalize events.filterMap _ = lines at ih ⊢
    cases ih with
    | silent _ hTold => exact .silent (.inr rfl) hTold
    | underWay => exact .underWay (by simp) (by simp)
    | complete => exact absurd rfl hStopped

/-- The posts of a worker are those of its rounds and at most one more. -/
theorem Course.posts_eq {a : Assignment} {phase : Phase} {rounds : List Round} {events : List Event}
    (h : a.Course phase rounds events) :
    ∃ present, events.filterMap Event.post? = rounds.map (·.post) ++ present ∧ present.length ≤ 1 ∧
      (phase = .stopped → present = []) := by
  induction h with
  | idle => exact ⟨[], rfl, by simp, fun _ => rfl⟩
  | calling rounds post =>
    refine ⟨[post], ?_, by simp, by simp⟩
    rw [List.filterMap_append, filterMap_post?_record]
    rfl
  | waiting | ticked | counted | planned | stopped => exact ⟨[], by simp [Event.post?], by simp, by simp⟩
  | lost hStopped _ ih =>
    obtain ⟨present, hPosts, hOne, -⟩ := ih
    exact ⟨present, hPosts, hOne, by simp⟩

end Assignment

theorem Event.filter_line? (name other : String) (event : Event) :
    (event.line? name).filter (·.isFrom other) = if name = other then event.line? name else none := by
  have hFrom (line : Log.Entry) (h : event.line? name = some line) :
      line.isFrom other = decide (name = other) := by
    cases event with
    | started | stopped =>
      cases h
      simp [Log.Entry.isFrom]
    | planned | posted => cases h
    | finished request outcome =>
      cases h
      have hFields : (outcomeLine name request outcome).fields = _ :=
        (Round.told_line name ⟨⟨0, "", request⟩, outcome⟩).fields
      simp [Log.Entry.isFrom, hFields]
  cases hLine : event.line? name with
  | none => simp
  | some line => simp [Option.filter_some, hFrom line hLine]

namespace Run

def linesOf (r : Run) (name : String) : List Log.Entry := r.lines.filter (·.isFrom name)

/-- Where names are distinct, the lines under the name of a worker are those of its events. -/
theorem linesOf_eq {r : Run} (hNodup : (r.workers.map (·.assignment.name)).Nodup) {place : Nat}
    {w : Worker} (hFound : r.workers[place]? = some w) :
    r.linesOf w.assignment.name = (r.eventsOf place).filterMap (Event.line? w.assignment.name) := by
  rw [linesOf, lines, List.filter_filterMap, eventsOf, List.filterMap_map, List.filterMap_filter]
  refine List.filterMap_congr fun entry _ => ?_
  obtain ⟨other, event⟩ := entry
  cases hOther : r.workers[other]? with
  | none =>
    have hPlace : other ≠ place := by
      rintro rfl
      cases hOther.symm.trans hFound
    simp [hOther, hPlace]
  | some v =>
    have hSame : v.assignment.name = w.assignment.name ↔ other = place := by
      constructor
      · intro hName
        refine (List.getElem?_inj ?_ hNodup).mp ?_
        · simpa using (List.getElem?_eq_some_iff.mp hOther).1
        · simp [hOther, hFound, hName]
      · rintro rfl
        cases hOther.symm.trans hFound
        rfl
    simp only [hOther, Option.bind_some, Event.filter_line?, hSame, decide_eq_true_eq,
      Function.comp_apply]
    split <;> simp_all

end Run

namespace Orchestration

/-- The lines of the orchestration itself carry no name. -/
def LogsUnnamed (o : Orchestration) : Prop := ∀ line ∈ o.log, line.fields = []

theorem LogsUnnamed.move {o o' : Orchestration} {step : Step} (h : o.LogsUnnamed)
    (hMoves : o.Moves step o') : o'.LogsUnnamed := by
  have hOneMore (line : Log.Entry) (hLine : line.fields = []) :
      ∀ other ∈ o.log ++ [line], other.fields = [] := fun other hOther =>
    (List.mem_append.mp hOther).elim (h other) fun hLast => List.mem_singleton.mp hLast ▸ hLine
  cases hMoves with
  | run | collect | finish => exact h
  | shutdown | noticeStop | lose => exact hOneMore _ rfl

section Launched

variable {users : Draw String} {catalog : Catalog} {events queries : Pool} {source : Nat → Source}
  {client : Nat → Except Error Unit} {o o' : Orchestration} {steps : List Step}

theorem logsUnnamed_of_steps? (hLaunch : launch users catalog events queries source client = .ok o)
    (hRun : o.steps? steps = some o') : o'.LogsUnnamed := by
  refine steps?_preserves (P := LogsUnnamed) (fun h hMoves => h.move hMoves) ?_ hRun
  simp only [launch, bind, Except.bind] at hLaunch
  split at hLaunch <;> cases hLaunch
  intro line hLine
  rw [List.mem_singleton.mp hLine]
  rfl

/-- The log accounts for every post, at any moment of an orchestration. Under the name of a worker it
has the start, a line for each round of its course that tells of that very round, and, once the worker has
stopped, the stop. The counts are those of the lines and of those that warn, and the last line and the
report tell the same counts. -/
theorem log_accounts_for_posts (hLaunch : launch users catalog events queries source client = .ok o)
    (hRun : o.steps? steps = some o') :
    o'.run.workers.map (·.assignment.name) = names events queries ∧ (names events queries).Nodup ∧
    (∀ line ∈ o'.log, ∀ name, line.isFrom name = false) ∧
    ∀ place w, o'.run.workers[place]? = some w → ∃ rounds present told,
      w.assignment.Course w.phase rounds (o'.run.eventsOf place) ∧
      o'.run.postsOf place = rounds.map (·.post) ++ present ∧ present.length ≤ 1 ∧
      (w.phase = .stopped → present = []) ∧
      List.Forall₂ (Round.Told w.assignment.name) rounds told ∧
      w.report.sent = told.length ∧ w.report.failed = (told.filter (·.level = .warn)).length ∧
      w.assignment.Account told (w.assignment.stopLine w.report.sent w.report.failed) w.phase
        (o'.run.linesOf w.assignment.name) ∧
      ∀ summary, o'.summary? = some summary → w.phase = .stopped → w.report ∈ summary.reports := by
  have hNames := map_name_workers hLaunch hRun
  have hNodup := nodup_names events queries
  refine ⟨hNames, hNodup, fun line hLine name => ?_, fun place w hFound => ?_⟩
  · rw [Log.Entry.isFrom, logsUnnamed_of_steps? hLaunch hRun line hLine]
    rfl
  obtain ⟨-, -, -, rounds, hFollows⟩ := follows_of_steps? hLaunch hRun hFound
  obtain ⟨present, hPosts, hOne, hNone⟩ := hFollows.course.posts_eq
  have hAccount := hFollows.course.account
  rw [← Run.linesOf_eq (hNames ▸ hNodup) hFound, ← hFollows.sent, ← hFollows.failed] at hAccount
  refine ⟨rounds, present, _, hFollows.course, hPosts, hOne, hNone, ?_, ?_, ?_, hAccount, ?_⟩
  · exact List.forall₂_map_right_iff.mpr (List.forall₂_same.mpr fun r _ => r.told_line _)
  · exact hFollows.sent.trans (List.length_map ..).symm
  · exact hFollows.failed.trans (Round.length_warnings _ rounds).symm
  · intro summary hReturned hStopped
    obtain ⟨rfl, gone, hGathered⟩ := collated_of_returned hLaunch hRun hReturned
    rw [hGathered.reports_eq]
    exact List.mem_filterMap.mpr
      ⟨w, List.mem_of_getElem? hFound, Worker.report?_of_stopped hStopped⟩

end Launched

/-- The query worker's lines are its start, a warning, and its stop with the counts of both. -/
theorem log_of_duo :
    launch Duo.users Duo.catalog Duo.pool Duo.pool (fun _ => .cyclic #[0]) (fun _ => .ok ()) =
      .ok Duo.launched ∧
    Duo.launched.steps? Duo.steps = some Duo.ended ∧
    ∃ line, Duo.ended.run.linesOf "R1" =
        [⟨.info, "worker started",
            [("worker", "R1"), ("mode", "rpc"), ("rate", "1.0"), ("target", "http://localhost")]⟩,
          line, ⟨.info, "worker stopped", [("worker", "R1"), ("sent", "1"), ("failed", "1")]⟩] ∧
      line.level = .warn := by
  obtain ⟨-, -, -, hWorkers⟩ := log_accounts_for_posts Duo.launch_eq Duo.steps_eq
  obtain ⟨w, hFound, hPhase, hMode, hRate, hUrl, hCounts⟩ : ∃ w, Duo.ended.run.workers[1]? = some w ∧
      w.phase = .stopped ∧ w.assignment.workload.mode = "rpc" ∧ w.assignment.rate = .ofNat 1 ∧
      w.assignment.baseUrl = "http://localhost" ∧ w.report.sent = 1 ∧ w.report.failed = 1 :=
    ⟨_, rfl, rfl, rfl, rfl, rfl, rfl, rfl⟩
  have hName : w.assignment.name = "R1" := by
    have hAll : (Duo.ended.run.workers[1]?.map (·.assignment.name)) = some "R1" := by decide +kernel
    simpa [hFound] using hAll
  obtain ⟨-, -, told, -, -, -, -, -, hSent, hFailed, hAccount, -⟩ := hWorkers 1 w hFound
  rw [hCounts.1] at hSent hAccount
  rw [hCounts.2] at hFailed hAccount
  obtain ⟨line, rfl⟩ := List.length_eq_one_iff.mp hSent.symm
  have hOne : natText 1 = "1" := by decide +kernel
  have hText : (Binary64.ofNat 1).fieldText = "1.0" := by decide +kernel
  refine ⟨Duo.launch_eq, Duo.steps_eq, line, ?_, ?_⟩
  · rw [hPhase, hName] at hAccount
    generalize Duo.ended.run.linesOf "R1" = lines at hAccount ⊢
    cases hAccount with
    | silent h => simp at h
    | underWay _ hStopped => exact absurd rfl hStopped
    | complete => simp [Assignment.startLine, Assignment.stopLine, hName, hMode, hRate, hUrl, hOne, hText]
  · by_contra hLevel
    simp [hLevel] at hFailed

end Orchestration
end ApiLoad
