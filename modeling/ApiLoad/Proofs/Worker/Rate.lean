import ApiLoad.Proofs.Worker.Halt
import Mathlib.Algebra.Order.Floor.Div

/-!
# The rate of a worker

A worker whose posts are over within a period holds its rate. Every tick is taken at its deadline, so
the deadlines stay on the multiples of the period, and there is one post at each of them that lies
before the stop.
-/
set_option autoImplicit false

namespace ApiLoad

theorem Ticker.take_of_le (t : Ticker) {now : Nat} (h : now ≤ t.deadline) :
    t.take now = ⟨t.period, t.deadline + t.period⟩ := by
  rw [take, if_neg (by omega)]

namespace Timeline

/-- The posts of a worker came at the multiples of its period, and the last of them is over before the
next multiple. -/
structure OnBeat (period : Nat) (t : Timeline) : Prop where
  sent : t.worker.sent = t.posts.length
  ticker : t.worker.ticker = ⟨period, t.posts.length * period⟩
  moments : t.posts.map (·.moment) = (List.range t.posts.length).map (· * period)
  now : t.now ≤ t.posts.length * period
  endless : t.worker.assignment.workload.Endless t.worker.source

section Turn

variable {deliver : Nat → Nat} {period : Nat} {t t' : Timeline}

/-- Ticks at whole milliseconds are delivered at their deadlines. -/
def IsPunctual (deliver : Nat → Nat) : Prop :=
  ∀ deadline, Interval.millisecond ∣ deadline → deliver deadline = deadline

theorem OnBeat.wake_eq (h : t.OnBeat period) (hPunctual : IsPunctual deliver)
    (hPeriod : Interval.millisecond ∣ period) : t.wake deliver = t.posts.length * period := by
  rw [wake, h.ticker, hPunctual _ (Nat.dvd_mul_left_of_dvd hPeriod _)]
  exact Nat.max_eq_right h.now

theorem OnBeat.called {stop : Stop} {answer : Answer} (h : t.OnBeat period)
    (hWake : t.wake deliver = t.posts.length * period) (hLatency : answer.latency ≤ period)
    (hCalled : Called deliver stop answer t t') : t'.OnBeat period := by
  obtain ⟨post, hMoment, hPosts⟩ := hCalled.posts
  have hLength := hCalled.length_posts
  have hNext : t'.posts.length * period = t.posts.length * period + period := by
    rw [hLength, Nat.succ_mul]
  refine ⟨by rw [hCalled.sent, h.sent, hLength], ?_, ?_, ?_, hCalled.endless h.endless⟩
  · rw [hCalled.ticker, h.ticker, Ticker.take_of_le _ (Nat.le_of_eq hWake), hNext]
  · rw [hLength, List.range_succ, List.map_append, ← h.moments, hPosts, List.map_append]
    simp [hMoment, hWake]
  · rw [hCalled.now, hWake, hNext]
    exact Nat.add_le_add_left hLatency _

theorem OnBeat.left (h : t.OnBeat period) {moment : Nat} (hMoment : moment ≤ t.posts.length * period) :
    (Timeline.mk { t.worker with phase := .stopped } (max t.now moment) t.ids
      ((max t.now moment, .stopped t.worker.sent t.worker.failed) :: t.journal)).OnBeat period := by
  have hPosts := t.posts_left (max t.now moment)
  exact ⟨hPosts ▸ h.sent, hPosts ▸ h.ticker, hPosts ▸ h.moments,
    hPosts ▸ Nat.max_le.mpr ⟨h.now, hMoment⟩, h.endless⟩

end Turn

section Stopped

variable {deliver : Nat → Nat} {answers : Nat → Answer} {w : Worker}

/-- A worker stops only once the stop has come, which is then no later than its next tick. -/
theorem onBeat_after (hDeliver : ∀ deadline, deadline ≤ deliver deadline)
    (hPunctual : IsPunctual deliver) (hNew : w.IsNew)
    (hEndless : w.assignment.workload.Endless w.source) (hPeriod : Interval.millisecond ∣ w.period)
    (hLatency : ∀ n, (answers n).latency ≤ w.period) (moment limit : Nat) :
    (after deliver ⟨some moment, none⟩ answers w limit).OnBeat w.period ∧
      ((after deliver ⟨some moment, none⟩ answers w limit).worker.phase = .stopped →
        moment ≤ (after deliver ⟨some moment, none⟩ answers w limit).posts.length * w.period) := by
  rw [after]
  refine turns_preserves (P := fun t => t.OnBeat w.period ∧
    (t.worker.phase = .stopped → moment ≤ t.posts.length * w.period)) ?_ hDeliver ?_
    (waiting_start hNew) limit
  · rintro t t' ⟨hBeat, -⟩ - hTurned
    have hWake := hBeat.wake_eq hPunctual hPeriod
    cases hTurned with
    | left hStop hTick =>
      cases hStop
      rw [hWake] at hTick
      refine ⟨hBeat.left hTick, fun _ => ?_⟩
      rwa [posts_left]
    | stuck hNone => exact (hBeat.endless.next_ne_none _ _ _ hNone).elim
    | called _ hCalled =>
      have hNext := hBeat.called hWake (hLatency _) hCalled
      refine ⟨hNext, fun hStopped => Nat.le_trans ?_ hNext.now⟩
      have hPhase := hCalled.phase
      rw [hStopped, hasCome_moment] at hPhase
      by_contra hCome
      rw [decide_eq_false hCome] at hPhase
      cases hPhase
  · rw [start_eq hNew]
    exact ⟨⟨hNew.sent, by simp [Ticker.start, posts, Event.post?], rfl, Nat.zero_le _, hEndless⟩,
      fun h => by cases h⟩

/-- Posts at the multiples of a period that lie before a moment are all of them if the next multiple
does not. -/
theorem OnBeat.length_eq {period moment : Nat} {t : Timeline} (h : t.OnBeat period)
    (hPeriod : 0 < period) (hBefore : ∀ post ∈ t.posts, post.moment < moment)
    (hAfter : moment ≤ t.posts.length * period) : t.posts.length = moment ⌈/⌉ period := by
  refine Nat.le_antisymm (Nat.le_of_not_lt fun hMore => ?_)
    ((ceilDiv_le_iff_le_mul hPeriod).mpr (by rwa [Nat.mul_comm]))
  have hMem : moment ⌈/⌉ period * period ∈ t.posts.map (·.moment) := by
    rw [h.moments]
    exact List.mem_map.mpr ⟨_, List.mem_range.mpr hMore, rfl⟩
  obtain ⟨post, hPost, hMoment⟩ := List.mem_map.mp hMem
  have hCeil : moment ≤ period * (moment ⌈/⌉ period) := le_smul_ceilDiv hPeriod
  have hLate := hBefore post hPost
  rw [Nat.mul_comm] at hCeil
  omega

/-- A worker holds its rate if its posts are over within a period of whole milliseconds. Up to the stop
it posts at every multiple of the period and at no other moment, however often its posts fail, so the
number of posts it reports is the number of periods rounded up. A stop that comes with a tick is seen
before it. -/
theorem rate_is_held (hDeliver : ∀ deadline, deadline ≤ deliver deadline)
    (hPunctual : IsPunctual deliver) (hNew : w.IsNew)
    (hEndless : w.assignment.workload.Endless w.source) (hPeriod : Interval.millisecond ∣ w.period)
    (hLatency : ∀ n, (answers n).latency ≤ w.period) (moment : Nat) :
    (ofWorker deliver ⟨some moment, none⟩ answers w).posts.map (·.moment) =
      (List.range (moment ⌈/⌉ w.period)).map (· * w.period) ∧
    (ofWorker deliver ⟨some moment, none⟩ answers w).worker.phase = .stopped ∧
    (ofWorker deliver ⟨some moment, none⟩ answers w).worker.report.sent = moment ⌈/⌉ w.period := by
  have hStopped : (ofWorker deliver ⟨some moment, none⟩ answers w).worker.phase = .stopped :=
    (ofWorker_moment hDeliver hNew hEndless moment).1
  have hBefore : ∀ post ∈ (ofWorker deliver ⟨some moment, none⟩ answers w).posts, post.moment < moment :=
    posts_before_stop hDeliver hNew rfl _
  obtain ⟨hBeat, hAfter⟩ := onBeat_after hDeliver hPunctual hNew hEndless hPeriod hLatency moment
    (Stop.turns ⟨some moment, none⟩ w.period)
  have hLength := hBeat.length_eq w.period_pos hBefore (hAfter hStopped)
  exact ⟨hLength ▸ hBeat.moments, hStopped, hBeat.sent.trans hLength⟩

theorem nextMillisecond_punctual : IsPunctual nextMillisecond := by
  rintro _ ⟨n, rfl⟩
  simp only [nextMillisecond, Interval.millisecond]
  omega

end Stopped

namespace Steady

/-- A worker of ten queries per second, whose posts all fail, every other one at the end of a period. -/
def worker : Worker where
  assignment := ⟨"R1", .ofNat 10, "http://localhost", .queries⟩
  source := .cyclic #[0]

def answers (sent : Nat) : Answer := ⟨.failed "", sent % 2 * (100 * Interval.millisecond)⟩

end Steady

/-- Stopped during the post at two hundred milliseconds, the worker has sent three. -/
theorem rate_of_steady :
    (∀ moment, moment ≤ nextMillisecond moment) ∧ IsPunctual nextMillisecond ∧ Steady.worker.IsNew ∧
    Steady.worker.assignment.workload.Endless Steady.worker.source ∧
    Steady.worker.period = 100 * Interval.millisecond ∧
    (∀ n, (Steady.answers n).latency ≤ Steady.worker.period) ∧
    (ofWorker nextMillisecond ⟨some (250 * Interval.millisecond), none⟩ Steady.answers
      Steady.worker).posts.map (·.moment) =
        [0, 100 * Interval.millisecond, 200 * Interval.millisecond] := by
  have hNew : Steady.worker.IsNew := ⟨rfl, rfl, rfl⟩
  have hPeriod : Steady.worker.period = 100 * Interval.millisecond := by decide +kernel
  have hEndless : Steady.worker.assignment.workload.Endless Steady.worker.source :=
    Workload.endless_queries _
  have hLatency (n : Nat) : (Steady.answers n).latency ≤ Steady.worker.period := by
    rw [hPeriod]
    exact Nat.mul_le_of_le_div _ _ _ (by rw [Nat.div_self (by decide)]; omega)
  have hRate := (rate_is_held le_nextMillisecond nextMillisecond_punctual hNew hEndless
    (hPeriod ▸ Nat.dvd_mul_left ..) hLatency (250 * Interval.millisecond)).1
  rw [hPeriod] at hRate
  exact ⟨le_nextMillisecond, nextMillisecond_punctual, hNew, hEndless, hPeriod, hLatency, hRate⟩

end Timeline
end ApiLoad
