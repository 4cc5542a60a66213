import ApiLoad.Proofs.Worker.Turns

/-!
# The pace of a worker

A late tick moves the grid of deadlines, one that is late by no more than the tolerance does not. So
a post may come closer to the one before it than a period, but over any stretch of posts the worker is
ahead of its rate by no more than the tolerance, and never ahead of its start.
-/
set_option autoImplicit false

namespace ApiLoad

theorem Interval.shortest_le_ofRate (rate : Binary64) : shortest ≤ ofRate rate := by
  have hBounds : shortest ≤ longest ∧ shortest ≤ second := by decide
  unfold ofRate
  split <;> omega

theorem Worker.period_pos (w : Worker) : 0 < w.period :=
  Nat.lt_of_lt_of_le (by decide) (Interval.shortest_le_ofRate w.assignment.rate)

/-- The next deadline is a period after the last one, and a period after the tick up to the tolerance. -/
theorem Ticker.deadline_take (t : Ticker) (now : Nat) :
    t.deadline + t.period ≤ (t.take now).deadline ∧
      now + t.period ≤ (t.take now).deadline + tolerance := by
  simp only [take]
  split <;> omega

/-- The moments at which a ticker was taken, with the deadline after them. -/
inductive Paced (period : Nat) : List Nat → Nat → Prop
  | start (deadline : Nat) : Paced period [] deadline
  | tick {moments : List Nat} {deadline moment next : Nat} (h : Paced period moments deadline)
      (hDue : deadline ≤ moment) (hNext : deadline + period ≤ next)
      (hGrid : moment + period ≤ next + Ticker.tolerance) : Paced period (moments ++ [moment]) next

namespace Paced

variable {period deadline : Nat} {moments : List Nat}

theorem later (h : Paced period moments deadline) {next : Nat} (hNext : deadline ≤ next) :
    Paced period moments next := by
  cases h with
  | start => exact .start next
  | tick h hDue hBefore hGrid => exact .tick h hDue (by omega) (by omega)

theorem of_getElem?_concat {last moment k : Nat} (h : (moments ++ [last])[k]? = some moment) :
    (k < moments.length ∧ moments[k]? = some moment) ∨ (k = moments.length ∧ moment = last) := by
  have hLength : k < (moments ++ [last]).length := (List.getElem?_eq_some_iff.mp h).1
  rw [List.length_append, List.length_singleton] at hLength
  rcases Nat.lt_or_ge k moments.length with hOld | hLast
  · exact .inl ⟨hOld, by rwa [List.getElem?_append_left hOld] at h⟩
  · obtain rfl : k = moments.length := by omega
    exact .inr ⟨rfl, by simpa using h.symm⟩

theorem length_mul_le (h : Paced period moments deadline) : moments.length * period ≤ deadline := by
  induction h with
  | start => simp
  | tick h hDue hNext hGrid ih =>
    rw [List.length_append, List.length_singleton, Nat.succ_mul]
    omega

theorem add_mul_le (h : Paced period moments deadline) {i moment : Nat}
    (hFound : moments[i]? = some moment) :
    moment + (moments.length - i) * period ≤ deadline + Ticker.tolerance := by
  induction h with
  | start => simp at hFound
  | tick h hDue hNext hGrid ih =>
    rw [List.length_append, List.length_singleton]
    obtain ⟨hOld, hFound⟩ | ⟨rfl, rfl⟩ := of_getElem?_concat hFound
    · have := ih hFound
      rw [Nat.succ_sub (Nat.le_of_lt hOld), Nat.succ_mul]
      omega
    · rw [Nat.add_sub_cancel_left, Nat.one_mul]
      exact hGrid

theorem mul_le (h : Paced period moments deadline) {k moment : Nat}
    (hFound : moments[k]? = some moment) : k * period ≤ moment := by
  induction h with
  | start => simp at hFound
  | tick h hDue hNext hGrid ih =>
    obtain ⟨-, hFound⟩ | ⟨rfl, rfl⟩ := of_getElem?_concat hFound
    · exact ih hFound
    · exact Nat.le_trans h.length_mul_le hDue

theorem add_mul_le_add (h : Paced period moments deadline) {i j earlier later : Nat} (hOrder : i < j)
    (hEarlier : moments[i]? = some earlier) (hLater : moments[j]? = some later) :
    earlier + (j - i) * period ≤ later + Ticker.tolerance := by
  induction h with
  | start => simp at hLater
  | @tick moments _ _ _ h hDue hNext hGrid ih =>
    have hPlace : j ≤ moments.length := by
      obtain ⟨hOld, -⟩ | ⟨rfl, -⟩ := of_getElem?_concat hLater <;> omega
    rw [List.getElem?_append_left (by omega)] at hEarlier
    obtain ⟨-, hLater⟩ | ⟨rfl, rfl⟩ := of_getElem?_concat hLater
    · exact ih hEarlier hLater
    · exact Nat.le_trans (h.add_mul_le hEarlier) (Nat.add_le_add_right hDue _)

theorem length_filter_le (h : Paced period moments deadline) (hPeriod : 0 < period) (moment : Nat) :
    (moments.filter (· ≤ moment)).length ≤ moment / period + 1 := by
  have hSplit := List.take_append_drop (moment / period + 1) moments
  rw [← hSplit, List.filter_append]
  have hNone : (moments.drop (moment / period + 1)).filter (· ≤ moment) = [] := by
    refine List.filter_eq_nil_iff.mpr fun late hMem hLate => ?_
    obtain ⟨k, hFound⟩ := List.mem_iff_getElem?.mp hMem
    rw [List.getElem?_drop] at hFound
    have hGrid := (Nat.le_div_iff_mul_le hPeriod).mpr (h.mul_le hFound)
    have hBound := Nat.div_le_div_right (c := period) (of_decide_eq_true hLate)
    omega
  rw [hNone, List.append_nil]
  exact Nat.le_trans (List.length_filter_le ..) (List.length_take_le ..)

end Paced

namespace Timeline

/-- The posts of a time line keep the pace of its worker. -/
structure OnPace (period : Nat) (t : Timeline) : Prop where
  ticker : t.worker.ticker.period = period
  moments : Paced period (t.posts.map (·.moment)) t.worker.ticker.deadline

theorem OnPace.turned {deliver : Nat → Nat} {stop : Stop} {answer : Answer} {period : Nat}
    {t t' : Timeline} (hDeliver : ∀ deadline, deadline ≤ deliver deadline) (h : t.OnPace period)
    (hTurned : Turned deliver stop answer t t') : t'.OnPace period := by
  obtain ⟨hPeriod, hMoments⟩ := h
  obtain ⟨hNext, hGrid⟩ := t.worker.ticker.deadline_take (t.wake deliver)
  rw [hPeriod] at hNext hGrid
  cases hTurned with
  | left => exact ⟨hPeriod, by rwa [posts_left]⟩
  | stuck => exact ⟨hPeriod, hMoments.later (Nat.le_trans (Nat.le_add_right ..) hNext)⟩
  | called _ hCalled =>
    obtain ⟨post, hMoment, hPosts⟩ := hCalled.posts
    refine ⟨by rw [hCalled.ticker]; exact hPeriod, ?_⟩
    rw [hPosts, hCalled.ticker, List.map_append, List.map_singleton, hMoment]
    exact .tick hMoments (t.deadline_le_wake hDeliver) hNext hGrid

theorem onPace_after {deliver : Nat → Nat} (hDeliver : ∀ deadline, deadline ≤ deliver deadline)
    (stop : Stop) (answers : Nat → Answer) {w : Worker} (hNew : w.IsNew) (limit : Nat) :
    (after deliver stop answers w limit).OnPace w.period := by
  rw [after, start_eq hNew]
  exact turns_preserves (fun h _ hTurned => h.turned hDeliver hTurned) hDeliver
    ⟨rfl, .start 0⟩ rfl limit

/-- The rate of a worker is capped. Its `k`-th post comes no earlier than `k` periods after the start,
so up to any moment there are no more posts than periods have begun. And however late some posts are,
those after them are never made up for by more than the tolerance. -/
theorem rate_is_capped {deliver : Nat → Nat} (hDeliver : ∀ deadline, deadline ≤ deliver deadline)
    (stop : Stop) (answers : Nat → Answer) {w : Worker} (hNew : w.IsNew) (limit : Nat) :
    (∀ (k : Nat) (post : Post), (after deliver stop answers w limit).posts[k]? = some post →
      k * w.period ≤ post.moment) ∧
    (∀ moment, ((after deliver stop answers w limit).posts.filter (·.moment ≤ moment)).length ≤
      moment / w.period + 1) ∧
    (∀ (i j : Nat) (earlier later : Post), i < j →
      (after deliver stop answers w limit).posts[i]? = some earlier →
      (after deliver stop answers w limit).posts[j]? = some later →
      earlier.moment + (j - i) * w.period ≤ later.moment + Ticker.tolerance) := by
  have hPaced := (onPace_after hDeliver stop answers hNew limit).moments
  refine ⟨fun k post hFound => ?_, fun moment => ?_, fun i j earlier later hOrder hEarlier hLater => ?_⟩
  · exact hPaced.mul_le (by rw [List.getElem?_map, hFound]; rfl)
  · have h := hPaced.length_filter_le w.period_pos moment
    rw [List.filter_map, List.length_map] at h
    exact h
  · exact hPaced.add_mul_le_add hOrder (by rw [List.getElem?_map, hEarlier]; rfl)
      (by rw [List.getElem?_map, hLater]; rfl)

theorem le_nextMillisecond (moment : Nat) : moment ≤ nextMillisecond moment := by
  simp only [nextMillisecond, Interval.millisecond]
  omega

namespace Catching

/-- A worker of a hundred queries per second whose first post takes thirteen milliseconds. -/
def worker : Worker where
  assignment := ⟨"R1", .ofNat 100, "http://localhost", .queries⟩
  source := .cyclic #[0]

def answers (sent : Nat) : Answer := ⟨.failed "", if sent = 0 then 13 * Interval.millisecond else 0⟩

def timeline : Timeline := after nextMillisecond {} answers worker 3

end Catching

/-- The third post comes seven milliseconds after the second, which was late by three. -/
theorem rate_of_catching :
    (∀ moment, moment ≤ nextMillisecond moment) ∧ Catching.worker.IsNew ∧
    Catching.worker.period = 10 * Interval.millisecond ∧
    Catching.timeline.posts.map (·.moment) = [0, 13 * Interval.millisecond, 20 * Interval.millisecond] ∧
    (Catching.timeline.posts.filter (·.moment ≤ 20 * Interval.millisecond)).length ≤ 3 := by
  have hNew : Catching.worker.IsNew := ⟨rfl, rfl, rfl⟩
  have hPeriod : Catching.worker.period = 10 * Interval.millisecond := by decide +kernel
  have hRate := (rate_is_capped le_nextMillisecond {} Catching.answers hNew 3).2.1
    (20 * Interval.millisecond)
  rw [hPeriod] at hRate
  exact ⟨le_nextMillisecond, hNew, hPeriod, by decide +kernel, hRate⟩

end Timeline
end ApiLoad
