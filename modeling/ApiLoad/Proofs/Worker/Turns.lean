import ApiLoad.Proofs.Worker.Course
import ApiLoad.Worker.Timeline

/-!
# The turns of a time line

A turn of a waiting worker has three ends. The stop comes no later than the tick, and the worker
leaves. No request can be drawn, and the worker waits no longer. Otherwise one post starts with the
tick and is counted when it ends, and the worker stops or waits again.
-/
set_option autoImplicit false

namespace ApiLoad.Timeline

theorem act_of_acts {t : Timeline} {cancelled : Bool} {action : Action} {w : Worker} {ids : CallIds}
    {events : List Event} (h : t.worker.Acts ⟨t.now, cancelled, t.ids⟩ action w ids events) :
    t.act cancelled action =
      ⟨w, t.now, ids, (events.map fun e => (t.now, e)).reverse ++ t.journal⟩ := by
  rw [act, h.act?]

theorem act_of_none {t : Timeline} {cancelled : Bool} {action : Action}
    (h : t.worker.act? ⟨t.now, cancelled, t.ids⟩ action = none) : t.act cancelled action = t := by
  rw [act, h]

structure Called (deliver : Nat → Nat) (stop : Stop) (answer : Answer) (t t' : Timeline) : Prop where
  assignment : t'.worker.assignment = t.worker.assignment
  ticker : t'.worker.ticker = t.worker.ticker.take (t.wake deliver)
  source : ∃ request, (t.worker.assignment.workload.next 0 t.worker.sent t.ids).run t.worker.source =
    some ((request, t'.ids), t'.worker.source)
  sent : t'.worker.sent = t.worker.sent + 1
  now : t'.now = t.wake deliver + answer.latency
  posts : ∃ post, post.moment = t.wake deliver ∧ t'.posts = t.posts ++ [post]
  phase : t'.worker.phase = if stop.hasCome t'.now t'.worker.sent then .stopped else .waiting

theorem Called.length_posts {deliver : Nat → Nat} {stop : Stop} {answer : Answer} {t t' : Timeline}
    (h : Called deliver stop answer t t') : t'.posts.length = t.posts.length + 1 := by
  obtain ⟨post, -, hPosts⟩ := h.posts
  rw [hPosts, List.length_append, List.length_singleton]

/-- What a turn of a waiting worker comes to. -/
inductive Turned (deliver : Nat → Nat) (stop : Stop) (answer : Answer) (t : Timeline) :
    Timeline → Prop
  | left {moment : Nat} (hStop : stop.moment = some moment) (hTick : moment ≤ t.wake deliver) :
      Turned deliver stop answer t
        ⟨{ t.worker with phase := .stopped }, max t.now moment, t.ids,
          (max t.now moment, .stopped t.worker.sent t.worker.failed) :: t.journal⟩
  | stuck
      (hNone : (t.worker.assignment.workload.next 0 t.worker.sent t.ids).run t.worker.source = none) :
      Turned deliver stop answer t
        ⟨{ t.worker with phase := .ticked, ticker := t.worker.ticker.take (t.wake deliver) },
          t.wake deliver + answer.latency, t.ids, t.journal⟩
  | called {t' : Timeline} (hStop : ∀ moment, stop.moment = some moment → t.wake deliver < moment)
      (h : Called deliver stop answer t t') : Turned deliver stop answer t t'

section Call

variable (stop : Stop) (answer : Answer) {t : Timeline}

/-- A tick without a request leaves the worker where it is. -/
theorem call_of_none (hWaiting : t.worker.phase = .waiting) (hDue : t.worker.ticker.deadline ≤ t.now)
    (hNone : (t.worker.assignment.workload.next 0 t.worker.sent t.ids).run t.worker.source = none) :
    t.call stop answer =
      ⟨{ t.worker with phase := .ticked, ticker := t.worker.ticker.take t.now },
        t.now + answer.latency, t.ids, t.journal⟩ := by
  have hTick : t.act false .tick = _ := act_of_acts (.tick hWaiting rfl hDue)
  have hPlan : (t.act false .tick).act false (.plan 0) = t.act false .tick :=
    act_of_none (by simp [hTick, Worker.act?, Worker.plan?, hNone])
  rw [call, hPlan, hTick]
  simp [act, Worker.act?, reach]

/-- A tick with a request is a post that is counted when it ends, and then the stop is looked at. -/
theorem call_of_some (hWaiting : t.worker.phase = .waiting) (hDue : t.worker.ticker.deadline ≤ t.now)
    {request : Request} {ids : CallIds} {source : Source}
    (hNext : (t.worker.assignment.workload.next 0 t.worker.sent t.ids).run t.worker.source =
      some ((request, ids), source)) :
    t.call stop answer =
      (Timeline.mk
        { t.worker with
          source := source
          ticker := t.worker.ticker.take t.now
          phase := .counted
          sent := t.worker.sent + 1
          failed := if answer.outcome.isFailure then t.worker.failed + 1 else t.worker.failed }
        (max t.now (t.now + answer.latency)) ids
        ((max t.now (t.now + answer.latency), .finished request answer.outcome) ::
          (t.now, .posted (t.worker.postOf ⟨t.now, false, ids⟩ request)) ::
          (t.now, .planned request) :: t.journal)).act
        (stop.hasCome (max t.now (t.now + answer.latency)) (t.worker.sent + 1)) .check := by
  have hTick : t.act false .tick = _ := act_of_acts (.tick hWaiting rfl hDue)
  have hPlan : (Timeline.mk { t.worker with phase := .ticked, ticker := t.worker.ticker.take t.now }
      t.now t.ids t.journal).act false (.plan 0) = _ := act_of_acts (.plan rfl hNext)
  -- From here on every phase is at hand, and the other three actions run on their own.
  rw [call, hTick]
  simp only [List.map_nil, List.reverse_nil, List.nil_append]
  rw [hPlan]
  rfl

theorem act_check {cancelled : Bool} (h : t.worker.phase = .counted) :
    t.act cancelled .check =
      ⟨{ t.worker with phase := if cancelled then .stopped else .waiting }, t.now, t.ids,
        if cancelled then (t.now, .stopped t.worker.sent t.worker.failed) :: t.journal
        else t.journal⟩ := by
  cases cancelled with
  | true => exact act_of_acts (.checkStop h rfl)
  | false => exact act_of_acts (.checkOn h rfl)

theorem reach_wake {deliver : Nat → Nat} :
    t.reach (t.wake deliver) = ⟨t.worker, t.wake deliver, t.ids, t.journal⟩ := by
  have h : max t.now (t.wake deliver) = t.wake deliver := Nat.max_eq_right (Nat.le_max_left ..)
  rw [reach, h]

theorem deadline_le_wake (t : Timeline) {deliver : Nat → Nat}
    (hDeliver : ∀ deadline, deadline ≤ deliver deadline) : t.worker.ticker.deadline ≤ t.wake deliver :=
  Nat.le_trans (hDeliver _) (Nat.le_max_right ..)

theorem called_of_some {deliver : Nat → Nat} (hDeliver : ∀ deadline, deadline ≤ deliver deadline)
    (hWaiting : t.worker.phase = .waiting) {request : Request} {ids : CallIds} {source : Source}
    (hNext : (t.worker.assignment.workload.next 0 t.worker.sent t.ids).run t.worker.source =
      some ((request, ids), source)) :
    Called deliver stop answer t ((t.reach (t.wake deliver)).call stop answer) := by
  have hEnd : max (t.wake deliver) (t.wake deliver + answer.latency) =
      t.wake deliver + answer.latency :=
    Nat.max_eq_right (Nat.le_add_right ..)
  have hCall := call_of_some stop answer (t := ⟨t.worker, t.wake deliver, t.ids, t.journal⟩) hWaiting
    (t.deadline_le_wake hDeliver) hNext
  rw [act_check rfl] at hCall
  simp only [hEnd] at hCall
  rw [reach_wake, hCall]
  refine ⟨rfl, rfl, ⟨request, hNext⟩, rfl, rfl,
    ⟨t.worker.postOf ⟨t.wake deliver, false, ids⟩ request, rfl, ?_⟩, rfl⟩
  cases stop.hasCome (t.wake deliver + answer.latency) (t.worker.sent + 1) <;>
    simp [posts, Event.post?]

end Call

theorem turned {deliver : Nat → Nat} (stop : Stop) (answer : Answer) {t : Timeline}
    (hDeliver : ∀ deadline, deadline ≤ deliver deadline) (hWaiting : t.worker.phase = .waiting) :
    Turned deliver stop answer t (t.turn deliver stop answer) := by
  unfold turn
  simp only
  split
  · rename_i moment hStop
    obtain ⟨hStop, hTick⟩ := Option.filter_eq_some_iff.mp hStop
    have hLeave : (t.reach moment).act true .leave = _ := act_of_acts (.leave hWaiting rfl)
    rw [hLeave]
    exact .left hStop (of_decide_eq_true hTick)
  · rename_i hStop
    have hLate : ∀ moment, stop.moment = some moment → t.wake deliver < moment := by
      intro moment hMoment
      simpa [hMoment, Option.filter_eq_none_iff] using hStop
    cases hNext : (t.worker.assignment.workload.next 0 t.worker.sent t.ids).run t.worker.source with
    | none =>
      have hCall := call_of_none stop answer (t := ⟨t.worker, t.wake deliver, t.ids, t.journal⟩)
        hWaiting (t.deadline_le_wake hDeliver) hNext
      rw [reach_wake, hCall]
      exact .stuck hNext
    | some next => exact .called hLate (called_of_some stop answer hDeliver hWaiting hNext)

theorem posts_left (t : Timeline) (moment : Nat) :
    (⟨{ t.worker with phase := .stopped }, moment, t.ids,
      (moment, .stopped t.worker.sent t.worker.failed) :: t.journal⟩ : Timeline).posts = t.posts := by
  simp [posts, Event.post?]

theorem waiting_of_beq {phase : Phase} (h : (phase == .waiting) = true) : phase = .waiting := by
  cases phase <;> first | rfl | cases h

/-- What every turn of a waiting worker preserves holds after any number of turns. -/
theorem turns_preserves {deliver : Nat → Nat} {stop : Stop} {answers : Nat → Answer}
    {P : Timeline → Prop}
    (hTurn : ∀ {t t' : Timeline}, P t → t.worker.phase = .waiting →
      Turned deliver stop (answers t.worker.sent) t t' → P t')
    (hDeliver : ∀ deadline, deadline ≤ deliver deadline) {t : Timeline} (h : P t)
    (hWaiting : t.worker.phase = .waiting) (limit : Nat) : P (t.turns deliver stop answers limit) := by
  induction limit generalizing t with
  | zero => exact h
  | succ limit ih =>
    have hNext := hTurn h hWaiting (turned stop (answers t.worker.sent) hDeliver hWaiting)
    rw [turns]
    split
    · exact ih hNext (waiting_of_beq ‹_›)
    · exact hNext

theorem turns_of_stopped {deliver : Nat → Nat} {stop : Stop} {answers : Nat → Answer} {t : Timeline}
    (h : (t.turn deliver stop (answers t.worker.sent)).worker.phase = .stopped) (limit : Nat) :
    t.turns deliver stop answers (limit + 1) = t.turn deliver stop (answers t.worker.sent) := by
  simp only [turns, h]
  rfl

theorem turns_of_waiting {deliver : Nat → Nat} {stop : Stop} {answers : Nat → Answer} {t : Timeline}
    (h : (t.turn deliver stop (answers t.worker.sent)).worker.phase = .waiting) (limit : Nat) :
    t.turns deliver stop answers (limit + 1) =
      (t.turn deliver stop (answers t.worker.sent)).turns deliver stop answers limit := by
  simp only [turns, h]
  rfl

/-- The time line of a worker that starts at the moment zero, after at most some turns. A whole time
line has as many as its stop leaves room for. -/
def after (deliver : Nat → Nat) (stop : Stop) (answers : Nat → Answer) (w : Worker) (limit : Nat) :
    Timeline :=
  ((Timeline.mk w 0 {} []).act false .start).turns deliver stop answers limit

theorem start_eq {w : Worker} (h : w.IsNew) :
    (Timeline.mk w 0 {} []).act false .start =
      ⟨{ w with phase := .waiting, ticker := .start w.period 0 }, 0, {},
        [(0, .started w.assignment.workload.mode w.assignment.rate w.assignment.baseUrl)]⟩ :=
  act_of_acts (.start h.phase)

end ApiLoad.Timeline
