import ApiLoad.Settings.Basic
import Mathlib.Data.List.Basic

/-!
# What validation decides

Settings whose workers can be counted in 64 bits are accepted exactly when a run has something to do,
addresses to do it at, and some time to do it in. Otherwise the first rule that they violate is the reason
of their rejection. But the workers are counted before any rule is looked at, so a run with more of them is
not judged at all, however sound it is.
-/
set_option autoImplicit false

namespace ApiLoad

/-- A pool with workers has an address that shows something. -/
def Pool.IsReachable (p : Pool) : Prop := 0 < p.workers → ∃ c ∈ p.baseUrl.toList, Text.isBlank c = false

theorem Pool.not_isReachable_iff (p : Pool) :
    ¬p.IsReachable ↔ 0 < p.workers ∧ Text.isAllBlank p.baseUrl = true := by
  simp [IsReachable, Text.isAllBlank]

namespace Settings

/-- A run with such settings has something sound to do. -/
structure IsSound (s : Settings) : Prop where
  workers : 0 < s.events.workers ∨ 0 < s.queries.workers
  events : s.events.IsReachable
  queries : s.queries.IsReachable
  time : 0 < s.timeout.nanoseconds

def Violates (s : Settings) : Rejection → Prop
  | .noWorkers => s.events.workers = 0 ∧ s.queries.workers = 0
  | .noEventUrl => ¬s.events.IsReachable
  | .noQueryUrl => ¬s.queries.IsReachable
  | .noTime => s.timeout.nanoseconds = 0
  | .overflow => False

instance (s : Settings) : DecidablePred s.Violates
  | .noWorkers => inferInstanceAs (Decidable (_ ∧ _))
  | .noEventUrl => decidable_of_iff' _ s.events.not_isReachable_iff
  | .noQueryUrl => decidable_of_iff' _ s.queries.not_isReachable_iff
  | .noTime => inferInstanceAs (Decidable (_ = _))
  | .overflow => inferInstanceAs (Decidable False)

/-- The rules in the order in which they are looked at. -/
def rules : List Rejection := [.noWorkers, .noEventUrl, .noQueryUrl, .noTime]

def firstViolated? (s : Settings) : Option Rejection := rules.find? (s.Violates ·)

section Rules

variable (s : Settings)

/-- The workers are counted before any rule is looked at. -/
theorem validate_eq : s.validate =
    if s.events.workers + s.queries.workers < Counter.limit then
      (s.firstViolated?.map Except.error).getD (.ok ())
    else .error .overflow := by
  have hWorkers : s.Violates .noWorkers ↔ s.events.workers + s.queries.workers = 0 :=
    Nat.add_eq_zero_iff.symm
  have hEvents : s.Violates .noEventUrl ↔ _ := s.events.not_isReachable_iff
  have hQueries : s.Violates .noQueryUrl ↔ _ := s.queries.not_isReachable_iff
  have hTime : s.Violates .noTime ↔ s.timeout.nanoseconds = 0 := .rfl
  unfold validate Counter.add?
  by_cases hFits : s.events.workers + s.queries.workers < Counter.limit
  · simp only [if_pos hFits, ← hWorkers, ← hEvents, ← hQueries, ← hTime, firstViolated?, rules,
      List.find?_cons, List.find?_nil]
    by_cases hFirst : s.Violates .noWorkers
    · simp [hFirst]
    by_cases hSecond : s.Violates .noEventUrl
    · simp [hFirst, hSecond]
    by_cases hThird : s.Violates .noQueryUrl
    · simp [hFirst, hSecond, hThird]
    by_cases hFourth : s.Violates .noTime <;> simp [hFirst, hSecond, hThird, hFourth]
  · simp only [if_neg hFits]

theorem isSound_iff : s.IsSound ↔ s.firstViolated? = none := by
  simp only [firstViolated?, List.find?_eq_none, decide_eq_true_eq]
  simp only [rules, List.forall_mem_cons, Violates, not_not]
  constructor
  · rintro ⟨hWorkers, hEvents, hQueries, hTime⟩
    exact ⟨by omega, hEvents, hQueries, by omega, by simp⟩
  · rintro ⟨hWorkers, hEvents, hQueries, hTime, -⟩
    exact ⟨by omega, hEvents, hQueries, by omega⟩

end Rules

/-- Settings are accepted exactly when their workers can be counted and a run has something sound to do.
They are rejected for the first rule that they violate, unless their workers cannot be counted. -/
theorem validation_is_exact (s : Settings) :
    (s.validate = .ok () ↔
      s.events.workers + s.queries.workers < Counter.limit ∧ s.IsSound) ∧
    ∀ reason, s.validate = .error reason ↔
      (Counter.limit ≤ s.events.workers + s.queries.workers ∧ reason = .overflow) ∨
      (s.events.workers + s.queries.workers < Counter.limit ∧ s.firstViolated? = some reason) := by
  rw [validate_eq, isSound_iff]
  by_cases hFits : s.events.workers + s.queries.workers < Counter.limit
  · cases hFirst : s.firstViolated? <;> simp [hFits, Nat.not_le.mpr hFits]
  · simp [hFits, Nat.le_of_not_lt hFits, eq_comm]

/-- As many event workers as 64 bits can count, and one worker of queries. -/
def crowd : Settings :=
  { defaults with
    events := { defaults.events with workers := Counter.limit - 1 }
    queries := { defaults.queries with workers := 1 } }

theorem isSound_crowd : crowd.IsSound where
  workers := .inr (by decide)
  events _ := ⟨'h', by decide, by decide⟩
  queries _ := ⟨'h', by decide, by decide⟩
  time := by decide

/-- A sound run that is not accepted, although either count of its workers fits 64 bits. -/
theorem rejection_of_crowd : crowd.events.workers < Counter.limit ∧
    crowd.queries.workers < Counter.limit ∧ crowd.IsSound ∧ crowd.validate = .error .overflow :=
  ⟨by decide, by decide, isSound_crowd, rfl⟩

end Settings
end ApiLoad
