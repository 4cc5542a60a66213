import ApiLoad.Proofs.Worker.Pace
import ApiLoad.Proofs.Workload

/-!
# The end of a time line

In virtual time a tick and its post are one moment, so no post starts once the stop has come. The
worker ends when the stop comes, or with the post that is under way then. The turns that a time line
is given are enough for that, since posts up to the stop keep the pace.
-/
set_option autoImplicit false

namespace ApiLoad.Timeline

def lastEnd (answers : Nat → Answer) (t : Timeline) : Nat :=
  (t.posts.getLast?.map fun post => post.moment + (answers (t.posts.length - 1)).latency).getD 0

/-- A worker between two posts: all of them are counted, and the last has just ended. -/
structure Between (answers : Nat → Answer) (period : Nat) (t : Timeline) : Prop where
  sent : t.worker.sent = t.posts.length
  now : t.now = t.lastEnd answers
  pace : t.OnPace period
  endless : t.worker.assignment.workload.Endless t.worker.source

section Turn

variable {deliver : Nat → Nat} {stop : Stop} {answers : Nat → Answer} {period : Nat} {t t' : Timeline}

theorem Called.lastEnd (h : Called deliver stop (answers t.worker.sent) t t')
    (hSent : t.worker.sent = t.posts.length) :
    t'.worker.sent = t'.posts.length ∧ t'.now = t'.lastEnd answers := by
  obtain ⟨post, hMoment, hPosts⟩ := h.posts
  refine ⟨by rw [h.sent, h.length_posts, hSent], ?_⟩
  rw [h.now, Timeline.lastEnd, hPosts, hSent]
  simp [hMoment]

theorem Called.endless {answer : Answer} (h : Called deliver stop answer t t')
    (hEndless : t.worker.assignment.workload.Endless t.worker.source) :
    t'.worker.assignment.workload.Endless t'.worker.source := by
  obtain ⟨request, hNext⟩ := h.source
  rw [h.assignment]
  exact hEndless.of_next hNext

theorem Called.posts_before (h : Called deliver stop (answers t.worker.sent) t t') {moment : Nat}
    (hBefore : ∀ post ∈ t.posts, post.moment < moment) (hLate : t.wake deliver < moment) :
    ∀ post ∈ t'.posts, post.moment < moment := by
  obtain ⟨last, hMoment, hPosts⟩ := h.posts
  intro post hMem
  rw [hPosts] at hMem
  rcases List.mem_append.mp hMem with hMem | hMem
  · exact hBefore post hMem
  · obtain rfl := List.mem_singleton.mp hMem
    exact hMoment ▸ hLate

theorem Between.called (hDeliver : ∀ deadline, deadline ≤ deliver deadline)
    (h : t.Between answers period)
    (hStop : ∀ moment, stop.moment = some moment → t.wake deliver < moment)
    (hCalled : Called deliver stop (answers t.worker.sent) t t') : t'.Between answers period := by
  obtain ⟨hSent, hNow⟩ := hCalled.lastEnd h.sent
  exact ⟨hSent, hNow, h.pace.turned hDeliver (.called hStop hCalled), hCalled.endless h.endless⟩

end Turn

section Stopped

variable {deliver : Nat → Nat} {answers : Nat → Answer} {w : Worker}

theorem between_start (hNew : w.IsNew) (hEndless : w.assignment.workload.Endless w.source) :
    ((Timeline.mk w 0 {} []).act false .start).Between answers w.period := by
  rw [start_eq hNew]
  exact ⟨hNew.sent, rfl, ⟨rfl, .start 0⟩, hEndless⟩

theorem waiting_start (hNew : w.IsNew) :
    ((Timeline.mk w 0 {} []).act false .start).worker.phase = .waiting := by rw [start_eq hNew]

theorem posts_start (hNew : w.IsNew) : ((Timeline.mk w 0 {} []).act false .start).posts = [] := by
  rw [start_eq hNew]
  rfl

theorem posts_before_stop (hDeliver : ∀ deadline, deadline ≤ deliver deadline) (hNew : w.IsNew)
    {stop : Stop} {moment : Nat} (hStop : stop.moment = some moment) (limit : Nat) :
    ∀ post ∈ (after deliver stop answers w limit).posts, post.moment < moment := by
  rw [after]
  refine turns_preserves (P := fun t => ∀ post ∈ t.posts, post.moment < moment) ?_ hDeliver
    (by simp [posts_start hNew]) (waiting_start hNew) limit
  intro t t' h _ hTurned
  cases hTurned with
  | left => rwa [posts_left]
  | stuck => exact h
  | called hLate hCalled => exact hCalled.posts_before h (hLate moment hStop)

/-- A stop during a post of the worker's own is seen at the end of that post. -/
theorem length_posts_le (hDeliver : ∀ deadline, deadline ≤ deliver deadline) (hNew : w.IsNew)
    {stop : Stop} {n : Nat} (hStop : stop.during = some n) (hPost : 0 < n) (limit : Nat) :
    (after deliver stop answers w limit).posts.length ≤ n := by
  rw [after]
  refine (turns_preserves (P := fun t => t.worker.sent = t.posts.length ∧ t.posts.length ≤ n ∧
    (t.worker.phase = .waiting → t.posts.length < n)) ?_ hDeliver ?_ (waiting_start hNew) limit).2.1
  · rintro t t' ⟨hSent, hLength, hMore⟩ hWaiting hTurned
    cases hTurned with
    | left => exact ⟨by rwa [posts_left], by rwa [posts_left], by simp⟩
    | stuck => exact ⟨hSent, hLength, by simp⟩
    | called _ hCalled =>
      have hNext := (hCalled.lastEnd hSent).1
      have hLength' := hCalled.length_posts
      have hBefore := hMore hWaiting
      refine ⟨hNext, by omega, fun hWaiting' => ?_⟩
      have hPhase := hCalled.phase
      rw [hWaiting'] at hPhase
      have hCome : stop.hasCome t'.now t'.worker.sent = false := by
        cases hCome : stop.hasCome t'.now t'.worker.sent with
        | false => rfl
        | true => simp [hCome] at hPhase
      simp only [Stop.hasCome, hStop, Bool.or_eq_false_iff] at hCome
      have := of_decide_eq_false hCome.2
      omega
  · rw [start_eq hNew]
    exact ⟨hNew.sent, Nat.zero_le _, fun _ => hPost⟩

theorem hasCome_moment (moment now sent : Nat) :
    Stop.hasCome ⟨some moment, none⟩ now sent = decide (moment ≤ now) := by simp [Stop.hasCome]

theorem hasCome_during (n now sent : Nat) :
    Stop.hasCome ⟨none, some n⟩ now sent = decide (n ≤ sent) := by simp [Stop.hasCome]

theorem Between.length_le {period : Nat} {t : Timeline} (h : t.Between answers period)
    (hPeriod : 0 < period) {moment : Nat} (hBefore : ∀ post ∈ t.posts, post.moment < moment) :
    t.posts.length ≤ moment / period + 1 := by
  refine Nat.le_of_not_lt fun hMore => ?_
  have hPlace : moment / period + 1 < t.posts.length := by omega
  have hGrid : (moment / period + 1) * period ≤ t.posts[moment / period + 1].moment :=
    h.pace.moments.mul_le (by rw [List.getElem?_map, List.getElem?_eq_getElem hPlace]; rfl)
  have hStop := hBefore _ (List.getElem_mem hPlace)
  have hPast : moment < (moment / period + 1) * period :=
    (Nat.div_lt_iff_lt_mul hPeriod).mp (Nat.lt_succ_self _)
  omega

theorem ends_at_moment (hDeliver : ∀ deadline, deadline ≤ deliver deadline) {period moment : Nat}
    (hPeriod : 0 < period) {t : Timeline} (h : t.Between answers period)
    (hWaiting : t.worker.phase = .waiting) (hBefore : ∀ post ∈ t.posts, post.moment < moment)
    (hNow : t.now ≤ moment) {limit : Nat} (hLimit : moment / period + 2 ≤ t.posts.length + limit) :
    (t.turns deliver ⟨some moment, none⟩ answers limit).worker.phase = .stopped ∧
      (t.turns deliver ⟨some moment, none⟩ answers limit).now =
        max moment ((t.turns deliver ⟨some moment, none⟩ answers limit).lastEnd answers) := by
  induction limit generalizing t with
  | zero =>
    -- Posts before the stop keep the pace, so a worker that still waits has turns left.
    have := h.length_le hPeriod hBefore
    omega
  | succ limit ih =>
    have hTurned := turned ⟨some moment, none⟩ (answers t.worker.sent) hDeliver hWaiting
    generalize hTurn : t.turn deliver ⟨some moment, none⟩ (answers t.worker.sent) = t' at hTurned
    cases hTurned with
    | left hStop =>
      cases hStop
      rw [turns_of_stopped (by rw [hTurn]), hTurn]
      refine ⟨rfl, ?_⟩
      rw [lastEnd, posts_left, ← lastEnd, ← h.now]
      exact Nat.max_comm ..
    | stuck hNone => exact (h.endless.next_ne_none _ _ _ hNone).elim
    | called hLate hCalled =>
      have hNext := h.called hDeliver hLate hCalled
      have hPhase := hCalled.phase
      rw [hasCome_moment] at hPhase
      by_cases hCome : moment ≤ t'.now
      · rw [decide_eq_true hCome] at hPhase
        rw [turns_of_stopped (by rw [hTurn]; exact hPhase), hTurn]
        exact ⟨hPhase, by rw [← hNext.now, Nat.max_eq_right hCome]⟩
      · rw [decide_eq_false hCome] at hPhase
        rw [turns_of_waiting (by rw [hTurn]; exact hPhase), hTurn]
        have hLength := hCalled.length_posts
        exact ih hNext hPhase (hCalled.posts_before hBefore (hLate moment rfl)) (by omega) (by omega)

theorem ends_with_post (hDeliver : ∀ deadline, deadline ≤ deliver deadline) {period n : Nat}
    {t : Timeline} (h : t.Between answers period) (hWaiting : t.worker.phase = .waiting)
    (hMore : t.posts.length < n) {limit : Nat} (hLimit : n ≤ t.posts.length + limit) :
    (t.turns deliver ⟨none, some n⟩ answers limit).worker.phase = .stopped ∧
      (t.turns deliver ⟨none, some n⟩ answers limit).posts.length = n ∧
      (t.turns deliver ⟨none, some n⟩ answers limit).now =
        (t.turns deliver ⟨none, some n⟩ answers limit).lastEnd answers := by
  induction limit generalizing t with
  | zero => omega
  | succ limit ih =>
    have hTurned := turned ⟨none, some n⟩ (answers t.worker.sent) hDeliver hWaiting
    generalize hTurn : t.turn deliver ⟨none, some n⟩ (answers t.worker.sent) = t' at hTurned
    cases hTurned with
    | left hStop => cases hStop
    | stuck hNone => exact (h.endless.next_ne_none _ _ _ hNone).elim
    | called hLate hCalled =>
      have hNext := h.called hDeliver hLate hCalled
      have hLength := hCalled.length_posts
      have hPhase := hCalled.phase
      rw [hasCome_during, hNext.sent, hLength] at hPhase
      by_cases hLast : n ≤ t.posts.length + 1
      · rw [decide_eq_true hLast] at hPhase
        rw [turns_of_stopped (by rw [hTurn]; exact hPhase), hTurn]
        exact ⟨hPhase, by omega, hNext.now⟩
      · rw [decide_eq_false hLast] at hPhase
        rw [turns_of_waiting (by rw [hTurn]; exact hPhase), hTurn]
        exact ih hNext hPhase (by omega) (by omega)

/-- A worker that is stopped at a moment ends then, or with the post that is under way. -/
theorem ofWorker_moment (hDeliver : ∀ deadline, deadline ≤ deliver deadline) (hNew : w.IsNew)
    (hEndless : w.assignment.workload.Endless w.source) (moment : Nat) :
    (ofWorker deliver ⟨some moment, none⟩ answers w).worker.phase = .stopped ∧
      (ofWorker deliver ⟨some moment, none⟩ answers w).now =
        max moment ((ofWorker deliver ⟨some moment, none⟩ answers w).lastEnd answers) :=
  ends_at_moment hDeliver w.period_pos (between_start hNew hEndless) (waiting_start hNew)
    (by simp [posts_start hNew]) (by simp [start_eq hNew]) (Nat.le_add_left ..)

/-- A worker that is stopped during a post of its own ends with that post. -/
theorem ofWorker_during (hDeliver : ∀ deadline, deadline ≤ deliver deadline) (hNew : w.IsNew)
    (hEndless : w.assignment.workload.Endless w.source) {n : Nat} (hPost : 0 < n) :
    (ofWorker deliver ⟨none, some n⟩ answers w).worker.phase = .stopped ∧
      (ofWorker deliver ⟨none, some n⟩ answers w).posts.length = n ∧
      (ofWorker deliver ⟨none, some n⟩ answers w).now =
        (ofWorker deliver ⟨none, some n⟩ answers w).lastEnd answers :=
  ends_with_post hDeliver (between_start hNew hEndless) (waiting_start hNew)
    (by simpa [posts_start hNew] using hPost) (Nat.le_add_left ..)

end Stopped

end ApiLoad.Timeline
