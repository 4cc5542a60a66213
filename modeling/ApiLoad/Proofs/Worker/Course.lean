import ApiLoad.Worker.Basic

/-!
# The course of a worker

A worker goes through rounds, one after another. In a round a request is planned, posted and brought
to its outcome, and nothing of the next round happens before. The phase says how far the present
round has come, and the counts say how many rounds are behind and how many of them failed.
-/
set_option autoImplicit false

namespace ApiLoad

namespace Worker

structure IsNew (w : Worker) : Prop where
  phase : w.phase = .idle
  sent : w.sent = 0
  failed : w.failed = 0

/-- What each action does to a worker, and when. -/
inductive Acts (w : Worker) (s : Surroundings) : Action → Worker → CallIds → List Event → Prop
  | start (h : w.phase = .idle) :
      Acts w s .start { w with phase := .waiting, ticker := .start w.period s.now } s.ids
        [.started w.assignment.workload.mode w.assignment.rate w.assignment.baseUrl]
  | tick (h : w.phase = .waiting) (hStop : s.cancelled = false) (hDue : w.ticker.deadline ≤ s.now) :
      Acts w s .tick { w with phase := .ticked, ticker := w.ticker.take s.now } s.ids []
  | leave (h : w.phase = .waiting) (hStop : s.cancelled = true) :
      Acts w s .leave { w with phase := .stopped } s.ids [.stopped w.sent w.failed]
  | plan {second : Int} {request : Request} {ids : CallIds} {source : Source}
      (h : w.phase = .ticked)
      (hNext : (w.assignment.workload.next second w.sent s.ids).run w.source =
        some ((request, ids), source)) :
      Acts w s (.plan second) { w with source := source, phase := .planned request } ids
        [.planned request]
  | post {request : Request} (h : w.phase = .planned request) :
      Acts w s .post { w with phase := .calling request } s.ids [.posted (w.postOf s request)]
  | count {request : Request} {outcome : Outcome} (h : w.phase = .calling request) :
      Acts w s (.count outcome)
        { w with
          phase := .counted
          sent := w.sent + 1
          failed := w.failed + if outcome.isFailure then 1 else 0 } s.ids
        [.finished request outcome]
  | checkStop (h : w.phase = .counted) (hStop : s.cancelled = true) :
      Acts w s .check { w with phase := .stopped } s.ids [.stopped w.sent w.failed]
  | checkOn (h : w.phase = .counted) (hStop : s.cancelled = false) :
      Acts w s .check { w with phase := .waiting } s.ids []
  | crash (hStopped : w.phase ≠ .stopped) (hLost : w.phase ≠ .lost) :
      Acts w s .crash { w with phase := .lost } s.ids []

theorem acts_of_act? {w w' : Worker} {s : Surroundings} {action : Action} {ids : CallIds}
    {events : List Event} (h : w.act? s action = some (w', ids, events)) :
    Acts w s action w' ids events := by
  unfold act? at h
  split at h
  · cases h
    exact .start ‹_›
  · split at h
    · rename_i hPhase hTick
      obtain ⟨hStop, hDue⟩ : s.cancelled = false ∧ w.ticker.deadline ≤ s.now := by
        simpa [Ticker.isDue] using hTick
      cases h
      exact .tick hPhase hStop hDue
    · cases h
  · split at h
    · cases h
      exact .leave ‹_› ‹_›
    · cases h
  · simp only [plan?, Option.bind_eq_bind, Option.bind_eq_some_iff] at h
    obtain ⟨⟨⟨request, ids⟩, source⟩, hNext, h⟩ := h
    cases h
    exact .plan ‹_› hNext
  · cases h
    exact .post ‹_›
  · cases h
    rename_i outcome request hPhase
    have hFailed : (if outcome.isFailure then w.failed + 1 else w.failed) =
        w.failed + if outcome.isFailure then 1 else 0 := by split <;> rfl
    rw [hFailed]
    exact .count hPhase
  · split at h
    · cases h
      exact .checkStop ‹_› ‹_›
    · cases h
      exact .checkOn ‹_› (by simpa using ‹¬s.cancelled = true›)
  · split at h
    · cases h
    · cases h
      rename_i hOver
      exact .crash (fun hStopped => hOver (by rw [hStopped]; rfl)) fun hLost =>
        hOver (by rw [hLost]; rfl)
  · cases h

theorem Acts.act? {w w' : Worker} {s : Surroundings} {action : Action} {ids : CallIds}
    {events : List Event} (h : Acts w s action w' ids events) :
    w.act? s action = some (w', ids, events) := by
  cases h with
  | start h => simp [Worker.act?, h]
  | tick h hStop hDue => simp [Worker.act?, h, hStop, Ticker.isDue, hDue]
  | leave h hStop => simp [Worker.act?, h, hStop, Worker.stop]
  | plan h hNext => simp [Worker.act?, h, plan?, hNext]
  | post h => simp [Worker.act?, h]
  | @count request outcome h => cases hFailed : outcome.isFailure <;> simp [Worker.act?, h, hFailed]
  | checkStop h hStop => simp [Worker.act?, h, hStop, Worker.stop]
  | checkOn h hStop => simp [Worker.act?, h, hStop]
  | crash hStopped hLost =>
    have hNot : (w.phase == .stopped || w.phase == .lost) = false := by
      cases hPhase : w.phase <;> first | rfl | contradiction
    simp [Worker.act?, hNot]

theorem Acts.assignment {w w' : Worker} {s : Surroundings} {action : Action} {ids : CallIds}
    {events : List Event} (h : Acts w s action w' ids events) : w'.assignment = w.assignment := by
  cases h <;> rfl

theorem Acts.not_over {w w' : Worker} {s : Surroundings} {action : Action} {ids : CallIds}
    {events : List Event} (h : Acts w s action w' ids events) :
    w.phase ≠ .stopped ∧ w.phase ≠ .lost := by
  cases h with
  | crash hStopped hLost => exact ⟨hStopped, hLost⟩
  | _ => simp [*]

end Worker

def Outcome.failure? : Outcome → Option String
  | .response _ _ _ => none
  | .failed message => some message

structure Round where
  post : Post
  outcome : Outcome

namespace Round

def events (r : Round) : List Event :=
  [.planned r.post.request, .posted r.post, .finished r.post.request r.outcome]

def failures (rounds : List Round) : List String := rounds.filterMap (·.outcome.failure?)

theorem length_failures_append (rounds : List Round) (r : Round) :
    (failures (rounds ++ [r])).length =
      (failures rounds).length + if r.outcome.isFailure then 1 else 0 := by
  cases h : r.outcome <;>
    simp [failures, List.filterMap_append, h, Outcome.failure?, Outcome.isFailure]

end Round

namespace Event

def request? : Event → Option Request
  | .planned request => some request
  | _ => none

def outcome? : Event → Option Outcome
  | .finished _ outcome => some outcome
  | _ => none

def failure? (event : Event) : Option String := event.outcome?.bind Outcome.failure?

end Event

namespace Assignment

/-- The events of a worker that is between two rounds. -/
def record (a : Assignment) (rounds : List Round) : List Event :=
  .started a.workload.mode a.rate a.baseUrl :: rounds.flatMap Round.events

theorem record_append (a : Assignment) (rounds : List Round) (r : Round) :
    a.record (rounds ++ [r]) = a.record rounds ++ r.events := by simp [record]

theorem filterMap_record {α : Type} (a : Assignment) (rounds : List Round) {view : Event → Option α}
    {shown : Round → α} (hStart : ∀ mode rate target, view (.started mode rate target) = none)
    (h : ∀ r : Round, r.events.filterMap view = [shown r]) :
    (a.record rounds).filterMap view = rounds.map shown := by
  rw [record, List.filterMap_cons_none (hStart _ _ _)]
  induction rounds with
  | nil => rfl
  | cons r rounds ih => rw [List.flatMap_cons, List.filterMap_append, h, ih]; rfl

@[simp]
theorem filterMap_post?_record (a : Assignment) (rounds : List Round) :
    (a.record rounds).filterMap Event.post? = rounds.map (·.post) :=
  a.filterMap_record rounds (fun _ _ _ => rfl) fun _ => rfl

@[simp]
theorem filterMap_request?_record (a : Assignment) (rounds : List Round) :
    (a.record rounds).filterMap Event.request? = rounds.map (·.post.request) :=
  a.filterMap_record rounds (fun _ _ _ => rfl) fun _ => rfl

@[simp]
theorem filterMap_outcome?_record (a : Assignment) (rounds : List Round) :
    (a.record rounds).filterMap Event.outcome? = rounds.map (·.outcome) :=
  a.filterMap_record rounds (fun _ _ _ => rfl) fun _ => rfl

/-- The events of a worker after some rounds, by its phase. A crash keeps what was there. -/
inductive Course (a : Assignment) : Phase → List Round → List Event → Prop
  | idle : Course a .idle [] []
  | waiting (rounds : List Round) : Course a .waiting rounds (a.record rounds)
  | ticked (rounds : List Round) : Course a .ticked rounds (a.record rounds)
  | planned (rounds : List Round) (request : Request) :
      Course a (.planned request) rounds (a.record rounds ++ [.planned request])
  | calling (rounds : List Round) (post : Post) :
      Course a (.calling post.request) rounds
        (a.record rounds ++ [.planned post.request, .posted post])
  | counted (rounds : List Round) : Course a .counted rounds (a.record rounds)
  | stopped (rounds : List Round) :
      Course a .stopped rounds
        (a.record rounds ++ [.stopped rounds.length (Round.failures rounds).length])
  | lost {phase : Phase} {rounds : List Round} {events : List Event} (hStopped : phase ≠ .stopped)
      (h : Course a phase rounds events) : Course a .lost rounds events

theorem Course.posts_prefix {a : Assignment} {phase : Phase} {rounds : List Round}
    {events : List Event} (h : a.Course phase rounds events) :
    (events.filterMap Event.post?).map (·.request) <+: events.filterMap Event.request? := by
  induction h with
  | lost _ _ ih => exact ih
  | _ => simp [Event.post?, Event.request?, List.filterMap_cons, Function.comp_def]

end Assignment

namespace Worker

/-- The worker is on its course, and its counts are those of its rounds. -/
structure Follows (w : Worker) (rounds : List Round) (events : List Event) : Prop where
  course : w.assignment.Course w.phase rounds events
  sent : w.sent = rounds.length
  failed : w.failed = (Round.failures rounds).length

theorem IsNew.follows {w : Worker} (h : w.IsNew) : w.Follows [] [] where
  course := by
    rw [h.phase]
    exact .idle
  sent := h.sent
  failed := h.failed

/-- An action keeps a worker on its course. Only the end of a post completes a round. -/
theorem Follows.act {w w' : Worker} {s : Surroundings} {action : Action} {ids : CallIds}
    {rounds : List Round} {events new : List Event} (h : w.Follows rounds events)
    (hAct : Acts w s action w' ids new) : ∃ rounds', w'.Follows rounds' (events ++ new) := by
  obtain ⟨hCourse, hSent, hFailed⟩ := h
  cases hAct with
  | start hPhase =>
    rw [hPhase] at hCourse
    cases hCourse
    exact ⟨[], .waiting [], hSent, hFailed⟩
  | tick hPhase =>
    rw [hPhase] at hCourse
    cases hCourse
    exact ⟨rounds, by simpa using .ticked rounds, hSent, hFailed⟩
  | plan hPhase =>
    rw [hPhase] at hCourse
    cases hCourse
    exact ⟨rounds, .planned rounds _, hSent, hFailed⟩
  | post hPhase =>
    rw [hPhase] at hCourse
    cases hCourse
    exact ⟨rounds, by simpa using .calling rounds (w.postOf s _), hSent, hFailed⟩
  | @count _ outcome hPhase =>
    rw [hPhase] at hCourse
    cases hCourse with
    | calling _ post =>
      refine ⟨rounds ++ [⟨post, outcome⟩], ?_, ?_, ?_⟩
      · rw [List.append_assoc]
        exact w.assignment.record_append rounds ⟨post, outcome⟩ ▸ .counted _
      · simp [hSent]
      · simp [hFailed, Round.length_failures_append]
  | checkOn hPhase =>
    rw [hPhase] at hCourse
    cases hCourse
    exact ⟨rounds, by simpa using .waiting rounds, hSent, hFailed⟩
  | leave hPhase | checkStop hPhase =>
    rw [hPhase] at hCourse
    cases hCourse
    exact ⟨rounds, by simpa [hSent, hFailed] using .stopped rounds, hSent, hFailed⟩
  | crash hStopped =>
    exact ⟨rounds, by simpa using .lost hStopped hCourse, hSent, hFailed⟩

end Worker
end ApiLoad
