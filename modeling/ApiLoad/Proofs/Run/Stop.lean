import ApiLoad.Proofs.Run.Conservation
import ApiLoad.Proofs.Worker.Halt

/-!
# After the stop

What a worker still does after the stop depends on where the stop found it. A worker that has not
started or that waits for a tick leaves. A tick that was taken still leads to its post, and a post
under way is brought to its end and counted. Nothing else happens, and but for the end of its post
the worker waits for nothing.
-/
set_option autoImplicit false

namespace ApiLoad

/-- A tick is taken whose post has not started yet. -/
def Phase.HasTick : Phase → Prop
  | .ticked | .planned _ => True
  | _ => False

/-- The number of actions that are left to a worker after the stop. -/
def Phase.toStop : Phase → Nat
  | .ticked => 4
  | .planned _ => 3
  | .calling _ | .idle => 2
  | .waiting | .counted => 1
  | .stopped | .lost => 0

namespace Worker

def closing (w : Worker) (request : Request) (outcome : Outcome) : List Event :=
  [.finished request outcome, .stopped (w.sent + 1) (w.failed + if outcome.isFailure then 1 else 0)]

/-- The events of a worker from the stop to its end, by the phase in which the stop found it. -/
inductive Farewell (w : Worker) : Phase → List Event → Prop
  | idle :
      Farewell w .idle
        [.started w.assignment.workload.mode w.assignment.rate w.assignment.baseUrl,
          .stopped w.sent w.failed]
  | waiting : Farewell w .waiting [.stopped w.sent w.failed]
  | ticked (post : Post) (outcome : Outcome) :
      Farewell w .ticked (.planned post.request :: .posted post :: w.closing post.request outcome)
  | planned (post : Post) (outcome : Outcome) :
      Farewell w (.planned post.request) (.posted post :: w.closing post.request outcome)
  | calling (request : Request) (outcome : Outcome) :
      Farewell w (.calling request) (w.closing request outcome)
  | counted : Farewell w .counted [.stopped w.sent w.failed]
  | stopped : Farewell w .stopped []
  | lost : Farewell w .lost []

theorem exists_farewell (w : Worker) (phase : Phase) : ∃ farewell, w.Farewell phase farewell := by
  cases phase with
  | idle => exact ⟨_, .idle⟩
  | waiting => exact ⟨_, .waiting⟩
  | ticked => exact ⟨_, .ticked default default⟩
  | planned request => exact ⟨_, .planned ⟨0, "", request⟩ default⟩
  | calling request => exact ⟨_, .calling request default⟩
  | counted => exact ⟨_, .counted⟩
  | stopped => exact ⟨_, .stopped⟩
  | lost => exact ⟨_, .lost⟩

theorem Farewell.posts {w : Worker} {phase : Phase} {farewell : List Event}
    (h : w.Farewell phase farewell) : farewell.filterMap Event.post? = [] ∨
      phase.HasTick ∧ ∃ post, farewell.filterMap Event.post? = [post] := by
  cases h with
  | ticked post | planned post => exact .inr ⟨trivial, post, rfl⟩
  | _ => exact .inl rfl

/-- After the stop an action begins a farewell, which goes on as that of the worker after it. -/
theorem Acts.farewell {w w' : Worker} {s : Surroundings} {action : Action} {ids : CallIds}
    {events rest : List Event} (h : w.Acts s action w' ids events) (hStop : s.cancelled = true)
    (hLost : w'.phase ≠ .lost) (hRest : w'.Farewell w'.phase rest) :
    w.Farewell w.phase (events ++ rest) := by
  cases h with
  | start h =>
    cases hRest
    rw [h]
    exact .idle
  | tick _ hOn | checkOn _ hOn => simp [hOn] at hStop
  | leave h =>
    cases hRest
    rw [h]
    exact .waiting
  | plan h =>
    cases hRest with
    | planned post outcome =>
      rw [h]
      exact .ticked post outcome
  | @post request h =>
    cases hRest with
    | calling _ outcome =>
      rw [h]
      exact .planned (w.postOf s request) outcome
  | count h =>
    cases hRest
    rw [h]
    exact .calling _ _
  | checkStop h =>
    cases hRest
    rw [h]
    exact .counted
  | crash => exact absurd rfl hLost

theorem Acts.toStop_lt {w w' : Worker} {s : Surroundings} {action : Action} {ids : CallIds}
    {events : List Event} (h : w.Acts s action w' ids events) (hStop : s.cancelled = true) :
    w'.phase.toStop < w.phase.toStop := by
  cases h with
  | tick _ hOn | checkOn _ hOn => simp [hOn] at hStop
  | crash hStopped hLost => cases h : w.phase <;> simp_all [Phase.toStop]
  | start h | leave h | plan h | post h | count h | checkStop h => simp [h, Phase.toStop]

theorem Acts.not_ticked {w w' : Worker} {s : Surroundings} {action : Action} {ids : CallIds}
    {events : List Event} (h : w.Acts s action w' ids events) (hStop : s.cancelled = true) :
    w'.phase ≠ .ticked := by
  cases h with
  | tick _ hOn => simp [hOn] at hStop
  | _ => simp

/-- The worker has come so far, from the stop on, with these events. -/
structure Leaves (w w' : Worker) (late : List Event) : Prop where
  /-- Also a worker that is lost on the way did a part of its farewell. -/
  part : ∃ farewell, w.Farewell w.phase farewell ∧ late <+: farewell
  rest : w'.phase ≠ .lost → ∀ rest, w'.Farewell w'.phase rest → w.Farewell w.phase (late ++ rest)
  /-- No tick is taken. -/
  ticked : w'.phase = .ticked → w' = w

theorem Leaves.refl (w : Worker) : w.Leaves w [] where
  part := (w.exists_farewell w.phase).imp fun _ h => ⟨h, List.nil_prefix⟩
  rest _ _ h := h
  ticked _ := rfl

theorem Leaves.act {w w' w'' : Worker} {s : Surroundings} {action : Action} {ids : CallIds}
    {late new : List Event} (h : w.Leaves w' late) (hAct : w'.Acts s action w'' ids new)
    (hStop : s.cancelled = true) : w.Leaves w'' (late ++ new) := by
  have hRest : w''.phase ≠ .lost → ∀ rest, w''.Farewell w''.phase rest →
      w.Farewell w.phase (late ++ new ++ rest) := by
    intro hLost rest hRest
    rw [List.append_assoc]
    exact h.rest hAct.not_over.2 _ (hAct.farewell hStop hLost hRest)
  refine ⟨?_, hRest, fun hTicked => absurd hTicked (hAct.not_ticked hStop)⟩
  by_cases hLost : w''.phase = .lost
  · have hNew : new = [] := by
      cases hAct <;> first | rfl | cases hLost
    obtain ⟨rest, hFarewell⟩ := w'.exists_farewell w'.phase
    exact ⟨_, h.rest hAct.not_over.2 rest hFarewell, by simp [hNew]⟩
  · obtain ⟨rest, hFarewell⟩ := w''.exists_farewell w''.phase
    exact ⟨_, hRest hLost rest hFarewell, List.prefix_append ..⟩

theorem Leaves.farewell_of_stopped {w w' : Worker} {late : List Event} (h : w.Leaves w' late)
    (hStopped : w'.phase = .stopped) : w.Farewell w.phase late := by
  have hLate := h.rest (by simp [hStopped]) [] (by rw [hStopped]; exact .stopped)
  rwa [List.append_nil] at hLate

theorem Leaves.posts {w w' : Worker} {late : List Event} (h : w.Leaves w' late) :
    late.filterMap Event.post? = [] ∨
      w.phase.HasTick ∧ ∃ post, late.filterMap Event.post? = [post] := by
  obtain ⟨farewell, hFarewell, hPart⟩ := h.part
  have hPosts := hPart.filterMap Event.post?
  obtain hNone | ⟨hTick, post, hOne⟩ := hFarewell.posts
  · rw [hNone] at hPosts
    exact .inl (List.prefix_nil.mp hPosts)
  · rw [hOne] at hPosts
    rcases List.prefix_cons_iff.mp hPosts with hNone | ⟨rest, hRest, hPrefix⟩
    · exact .inl hNone
    · exact .inr ⟨hTick, post, by rw [hRest, List.prefix_nil.mp hPrefix]⟩

def Endless (w : Worker) : Prop := w.assignment.workload.Endless w.source

/-- After the stop a worker that has not ended goes on at once, when its post ends with an outcome. -/
theorem exists_acts {w : Worker} {s : Surroundings} (hStop : s.cancelled = true)
    (hStopped : w.phase ≠ .stopped) (hLost : w.phase ≠ .lost)
    (hEndless : w.phase = .ticked → w.Endless) (outcome : Outcome) :
    ∃ action w' ids events, w.Acts s action w' ids events ∧ w'.phase ≠ .lost ∧
      ∀ other, action = .count other → other = outcome := by
  cases h : w.phase with
  | idle => exact ⟨_, _, _, _, .start h, by simp, by simp⟩
  | waiting => exact ⟨_, _, _, _, .leave h hStop, by simp, by simp⟩
  | ticked =>
    obtain ⟨_, _, _, hNext, -⟩ := (hEndless h).next 0 w.sent s.ids
    exact ⟨_, _, _, _, .plan h hNext, by simp, by simp⟩
  | planned => exact ⟨_, _, _, _, .post h, by simp, by simp⟩
  | calling => exact ⟨.count outcome, _, _, _, .count h, by simp, by simp⟩
  | counted => exact ⟨_, _, _, _, .checkStop h hStop, by simp, by simp⟩
  | stopped => exact absurd h hStopped
  | lost => exact absurd h hLost

end Worker

namespace Run

def Step.isOf (place : Nat) : Step → Bool
  | .act other _ => other = place
  | _ => false

/-- Once the stop is given, giving it again changes nothing. -/
theorem steps?_of_cancelled {r : Run} (hStop : r.cancelled = true) (steps : List Step) :
    r.steps? steps = r.steps? (steps.filter (· ≠ .cancel)) := by
  induction steps generalizing r with
  | nil => rfl
  | cons step steps ih =>
    by_cases hCancel : step = .cancel
    · subst hCancel
      have hSame : r.step? .cancel = some r := by
        rw [step?, ← hStop]
      rw [steps?_cons, hSame, Option.bind_some, ih hStop, List.filter_cons_of_neg (by simp)]
    · rw [List.filter_cons_of_pos (by simpa using hCancel), steps?_cons, steps?_cons]
      cases hStep : r.step? step with
      | none => rfl
      | some between => exact ih ((step?_forward hStep).1 hStop)

section Stopped

variable {r r' : Run} {steps : List Step} {place : Nat} {w w' : Worker}

theorem leaves_of_steps? (hRun : r.steps? steps = some r') (hStop : r.cancelled = true)
    (hFound : r.workers[place]? = some w) : ∃ w' late, r'.workers[place]? = some w' ∧
      r'.eventsOf place = r.eventsOf place ++ late ∧ w.Leaves w' late := by
  refine (steps?_preserves (P := fun r' => r'.cancelled = true ∧ ∃ w' late,
    r'.workers[place]? = some w' ∧ r'.eventsOf place = r.eventsOf place ++ late ∧ w.Leaves w' late)
    ?_ ⟨hStop, w, [], hFound, (List.append_nil _).symm, .refl w⟩ hRun).2
  rintro r₁ r₂ step ⟨hStop, w₁, late, hFound, hEvents, hLeaves⟩ hStep
  refine ⟨(step?_forward hStep).1 hStop, ?_⟩
  obtain ⟨-, hSame, hNone⟩ | ⟨_, w₂, new, -, hAct, hNew, hMore⟩ := step?_at hStep hFound
  · exact ⟨w₁, late, hSame, hNone.trans hEvents, hLeaves⟩
  · exact ⟨w₂, late ++ new, hNew, by rw [hMore, hEvents, List.append_assoc], hLeaves.act hAct hStop⟩

theorem length_actions_le (hRun : r.steps? steps = some r') (hStop : r.cancelled = true)
    (hFound : r.workers[place]? = some w) :
    (steps.filter (·.isOf place)).length ≤ w.phase.toStop := by
  induction steps generalizing r w with
  | nil => exact Nat.zero_le _
  | cons step steps ih =>
    rw [steps?_cons, Option.bind_eq_some_iff] at hRun
    obtain ⟨between, hStep, hRest⟩ := hRun
    have hStop' := (step?_forward hStep).1 hStop
    obtain ⟨hOther, hSame, -⟩ | ⟨action, v, _, rfl, hAct, hNew, -⟩ := step?_at hStep hFound
    · have hNot : step.isOf place = false := by
        cases step with
        | elapse | cancel => rfl
        | act other action => simpa [Step.isOf] using fun h => hOther action (by rw [h])
      rw [List.filter_cons_of_neg (by simp [hNot])]
      exact ih hRest hStop' hSame
    · rw [List.filter_cons_of_pos (by simp [Step.isOf]), List.length_cons]
      exact Nat.lt_of_le_of_lt (ih hRest hStop' hNew) (hAct.toStop_lt hStop)

/-- After the stop a worker comes to its end by its own actions while no time passes, whatever the
outcome of its post. -/
theorem exists_finish (hStop : r.cancelled = true) (hFound : r.workers[place]? = some w)
    (hLost : w.phase ≠ .lost) (hEndless : w.phase = .ticked → w.Endless) (outcome : Outcome) :
    ∃ (actions : List Action) (r' : Run) (w' : Worker),
      (∀ other, .count other ∈ actions → other = outcome) ∧
      r.steps? (actions.map (.act place)) = some r' ∧ r'.now = r.now ∧
      r'.workers[place]? = some w' ∧ w'.phase = .stopped := by
  induction hBound : w.phase.toStop using Nat.strongRecOn generalizing r w with
  | ind bound ih =>
    by_cases hStopped : w.phase = .stopped
    · exact ⟨[], r, w, by simp, rfl, rfl, hFound, hStopped⟩
    · obtain ⟨action, v, ids, events, hAct, hOn, hOutcome⟩ :=
        w.exists_acts (s := r.surroundings) hStop hStopped hLost hEndless outcome
      have hStep := step?_of_acts hFound hAct
      have hPlace : place < r.workers.length := (List.getElem?_eq_some_iff.mp hFound).1
      obtain ⟨actions, r', w', hOutcomes, hRun, hEnd⟩ :=
        ih _ (hBound ▸ hAct.toStop_lt hStop) (r := { r with
          workers := r.workers.set place v
          ids := ids
          journal := r.journal ++ events.map fun e => (place, e) }) hStop (w := v)
          (by simp [hPlace]) hOn (fun hTicked => absurd hTicked (hAct.not_ticked hStop)) rfl
      refine ⟨action :: actions, r', w', ?_, ?_, hEnd⟩
      · intro other hMem
        rcases List.mem_cons.mp hMem with rfl | hMem
        · exact hOutcome other rfl
        · exact hOutcomes other hMem
      · rw [List.map_cons, steps?_cons, hStep]
        exact hRun

/-- The stop is safe. From the stop on a worker does no more than the farewell of the phase in which
the stop found it: one post at most, for a tick already taken, in few actions, each of them possible
at once but for the end of the post. Giving the stop again changes nothing. In virtual time no post
starts once the stop has come, and the worker ends with the stop or with its last post. -/
theorem stop_is_safe {r r' : Run} {later : List Step} {place : Nat} {w : Worker}
    (hRun : r.steps? (.cancel :: later) = some r') (hFound : r.workers[place]? = some w)
    {deliver : Nat → Nat} (hDeliver : ∀ deadline, deadline ≤ deliver deadline) (answers : Nat → Answer)
    {v : Worker} (hNew : v.IsNew) :
    (∃ w' late, r'.workers[place]? = some w' ∧ r'.eventsOf place = r.eventsOf place ++ late ∧
      (∃ farewell, w.Farewell w.phase farewell ∧ late <+: farewell) ∧
      (w'.phase = .stopped → w.Farewell w.phase late) ∧
      (late.filterMap Event.post? = [] ∨
        w.phase.HasTick ∧ ∃ post, late.filterMap Event.post? = [post]) ∧
      (later.filter (·.isOf place)).length ≤ w.phase.toStop ∧
      ((w.phase = .ticked → w.Endless) → w'.phase ≠ .lost → ∀ outcome,
        ∃ (actions : List Action) (r'' : Run) (w'' : Worker),
          (∀ other, .count other ∈ actions → other = outcome) ∧
          r'.steps? (actions.map (.act place)) = some r'' ∧ r''.now = r'.now ∧
          r''.workers[place]? = some w'' ∧ w''.phase = .stopped)) ∧
    r.steps? (.cancel :: later.filter (· ≠ .cancel)) = some r' ∧
    (∀ moment, (∀ post ∈ (Timeline.ofWorker deliver ⟨some moment, none⟩ answers v).posts,
        post.moment < moment) ∧
      (v.Endless → (Timeline.ofWorker deliver ⟨some moment, none⟩ answers v).worker.phase = .stopped ∧
        (Timeline.ofWorker deliver ⟨some moment, none⟩ answers v).now =
          max moment ((Timeline.ofWorker deliver ⟨some moment, none⟩ answers v).lastEnd answers))) ∧
    (∀ n > 0, (Timeline.ofWorker deliver ⟨none, some n⟩ answers v).posts.length ≤ n ∧
      (v.Endless → (Timeline.ofWorker deliver ⟨none, some n⟩ answers v).worker.phase = .stopped ∧
        (Timeline.ofWorker deliver ⟨none, some n⟩ answers v).posts.length = n ∧
        (Timeline.ofWorker deliver ⟨none, some n⟩ answers v).now =
          (Timeline.ofWorker deliver ⟨none, some n⟩ answers v).lastEnd answers)) := by
  rw [steps?_cons] at hRun
  let stopped : Run := { r with cancelled := true }
  have hLater : stopped.steps? later = some r' := hRun
  have hStop' : r'.cancelled = true := cancelled_of_steps? hLater rfl
  obtain ⟨w', late, hFound', hEvents, hLeaves⟩ := leaves_of_steps? hLater rfl hFound
  refine ⟨⟨w', late, hFound', hEvents, hLeaves.part, hLeaves.farewell_of_stopped, hLeaves.posts,
    length_actions_le hLater rfl hFound, fun hEndless hLost outcome => ?_⟩, ?_, fun moment => ?_,
    fun n hPost => ?_⟩
  · refine exists_finish hStop' hFound' hLost (fun hTicked => ?_) outcome
    obtain rfl := hLeaves.ticked hTicked
    exact hEndless hTicked
  · rw [steps?_cons, ← hLater, steps?_of_cancelled (r := stopped) rfl later]
    rfl
  · exact ⟨Timeline.posts_before_stop hDeliver hNew rfl _,
      fun hEndless => Timeline.ofWorker_moment hDeliver hNew hEndless moment⟩
  · exact ⟨Timeline.length_posts_le hDeliver hNew rfl hPost _,
      fun hEndless => Timeline.ofWorker_during hDeliver hNew hEndless hPost⟩

end Stopped

namespace Parting

/-- The first worker waits for its next tick, the second has planned its request. -/
def before : List Step :=
  [.act 0 .start, .act 1 .start, .act 0 .tick, .act 0 (.plan 0), .act 1 .tick, .act 0 .post,
    .act 0 (.count (.response 200 "OK" none)), .act 1 (.plan 0), .act 0 .check]

def later : List Step :=
  [.act 1 .post, .cancel, .act 0 .leave, .elapse 7, .act 1 (.count (.failed "")), .act 1 .check]

def atStop : Run := (Orchestration.Duo.launched.run.steps? before).get rfl

def planner : Worker := atStop.workers.get ⟨1, by decide⟩

def ended : Run := (atStop.steps? (.cancel :: later)).get rfl

end Parting

/-- The planned request is posted after the stop, and the worker ends with it. In virtual time a
worker that waits when the stop comes ends at that moment. -/
theorem stop_of_parting :
    Parting.atStop.steps? (.cancel :: Parting.later) = some Parting.ended ∧
    Parting.atStop.workers[1]? = some Parting.planner ∧
    (∀ moment, moment ≤ Timeline.nextMillisecond moment) ∧ Timeline.Catching.worker.IsNew ∧
    (∃ late, Parting.ended.eventsOf 1 = Parting.atStop.eventsOf 1 ++ late ∧
      Parting.planner.Farewell Parting.planner.phase late) ∧
    (Timeline.ofWorker Timeline.nextMillisecond ⟨some 15000000, none⟩ Timeline.Catching.answers
      Timeline.Catching.worker).now = 15000000 := by
  have hRun : Parting.atStop.steps? (.cancel :: Parting.later) = some Parting.ended :=
    (Option.some_get _).symm
  have hFound : Parting.atStop.workers[1]? = some Parting.planner := List.getElem?_eq_getElem _
  have hNew : Timeline.Catching.worker.IsNew := ⟨rfl, rfl, rfl⟩
  obtain ⟨⟨w', late, hFound', hEvents, -, hFarewell, -⟩, -, hMoment, -⟩ :=
    stop_is_safe hRun hFound Timeline.le_nextMillisecond Timeline.Catching.answers hNew
  have hStopped : Parting.ended.workers[1]?.map (·.phase) = some .stopped := rfl
  rw [hFound'] at hStopped
  have hEnd := ((hMoment 15000000).2 (Workload.endless_queries _)).2
  have hLast : (Timeline.ofWorker Timeline.nextMillisecond ⟨some 15000000, none⟩
      Timeline.Catching.answers Timeline.Catching.worker).lastEnd Timeline.Catching.answers =
      13000000 := by decide +kernel
  rw [hLast] at hEnd
  exact ⟨hRun, hFound, Timeline.le_nextMillisecond, hNew,
    ⟨late, hEvents, hFarewell (Option.some.inj hStopped)⟩, hEnd⟩

end Run
end ApiLoad
