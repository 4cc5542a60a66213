import ApiLoad.Proofs.Run.Steps
import Mathlib.Algebra.GroupWithZero.Nat
import Mathlib.Data.List.Basic

/-!
# The journal, worker by worker

The journal of a run is the events of its workers, each kept in its worker's order. What is shown of
the whole journal is therefore, up to the order, what is shown of each worker's events.
-/
set_option autoImplicit false

namespace ApiLoad.Run

/-- Every event is that of a worker of the run. -/
def Placed (r : Run) : Prop := ∀ entry ∈ r.journal, entry.1 < r.workers.length

theorem placed_of_steps? {workers : List Worker} {r : Run} {steps : List Step}
    (hRun : (ofWorkers workers).steps? steps = some r) : r.Placed := by
  refine steps?_preserves (P := Placed) ?_ (by simp [Placed, ofWorkers]) hRun
  intro r r' step h hStep
  cases step with
  | elapse | cancel =>
    cases hStep
    exact h
  | act place action =>
    obtain ⟨w, w', ids, events, hFound, -, rfl⟩ := step?_act hStep
    have hPlace : place < r.workers.length := (List.getElem?_eq_some_iff.mp hFound).1
    intro entry hEntry
    rw [List.length_set]
    rcases List.mem_append.mp hEntry with hEntry | hEntry
    · exact h entry hEntry
    · obtain ⟨event, -, rfl⟩ := List.mem_map.mp hEntry
      exact hPlace

theorem Placed.eventsOf_of_none {r : Run} (h : r.Placed) {place : Nat}
    (hNone : r.workers[place]? = none) : r.eventsOf place = [] := by
  have hLength := List.getElem?_eq_none_iff.mp hNone
  rw [eventsOf, List.map_eq_nil_iff, List.filter_eq_nil_iff]
  intro entry hEntry hPlace
  have := h entry hEntry
  have := of_decide_eq_true hPlace
  omega

/-- Entries with places below a bound are, up to their order, those of each place. -/
theorem perm_flatMap_places {α β : Type} (view : α → Option β) (bound : Nat) (entries : List (Nat × α))
    (h : ∀ entry ∈ entries, entry.1 < bound) :
    (entries.filterMap fun entry => view entry.2).Perm
      ((List.range bound).flatMap fun place =>
        ((entries.filter fun entry => entry.1 = place).map (·.2)).filterMap view) := by
  induction bound generalizing entries with
  | zero =>
    obtain rfl : entries = [] := List.eq_nil_iff_forall_not_mem.mpr fun entry hEntry =>
      absurd (h entry hEntry) (Nat.not_lt_zero _)
    rfl
  | succ bound ih =>
    -- The entries of the last place are split off, and the others are split by the rest.
    have hParts := List.filter_append_perm (fun entry => decide (entry.1 < bound)) entries
    have hSplit := hParts.symm.filterMap fun entry => view entry.2
    rw [List.filterMap_append] at hSplit
    refine hSplit.trans ?_
    rw [List.range_succ, List.flatMap_append]
    refine .append ?_ ?_
    · refine (ih _ (by simp)).trans (.of_eq (List.flatMap_congr fun place hPlace => ?_))
      have hPlace := List.mem_range.mp hPlace
      rw [List.filter_filter]
      congr 2
      refine List.filter_congr fun entry _ => ?_
      simp only [Bool.and_eq_left_iff_imp, decide_eq_true_eq]
      omega
    · refine .of_eq ?_
      have hLast : entries.filter (fun entry => !decide (entry.1 < bound)) =
          entries.filter fun entry => entry.1 = bound := by
        refine List.filter_congr fun entry hEntry => ?_
        have := h entry hEntry
        simp only [← decide_not, decide_eq_decide]
        omega
      simp [hLast, List.filterMap_map]

theorem perm_flatMap_eventsOf {α : Type} {r : Run} (h : r.Placed) (view : Event → Option α) :
    (r.journal.filterMap fun entry => view entry.2).Perm
      ((List.range r.workers.length).flatMap fun place => (r.eventsOf place).filterMap view) :=
  perm_flatMap_places view _ r.journal h

theorem length_filterMap_journal {α : Type} {r : Run} (h : r.Placed) (view : Event → Option α)
    {shown : Worker → Nat} (hShown : ∀ place w, r.workers[place]? = some w →
      ((r.eventsOf place).filterMap view).length = shown w) :
    (r.journal.filterMap fun entry => view entry.2).length = (r.workers.map shown).sum := by
  rw [(perm_flatMap_eventsOf h view).length_eq, List.length_flatMap]
  congr 1
  refine List.ext_getElem (by simp) fun place hPlace _ => ?_
  have hPlace : place < r.workers.length := by simpa using hPlace
  simpa using hShown place _ (List.getElem?_eq_getElem hPlace)

end ApiLoad.Run
