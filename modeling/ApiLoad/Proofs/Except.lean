/-!
# Results of a chain

A chain gives a result only if each part of it does, and its error is that of the first part without one.
-/
set_option autoImplicit false

namespace ApiLoad

variable {ε α β : Type} {first : Except ε α} {next : α → Except ε β}

theorem bind_eq_ok {b : β} (h : (first >>= next) = .ok b) : ∃ a, first = .ok a ∧ next a = .ok b := by
  cases first with
  | error => cases h
  | ok a => exact ⟨a, rfl, h⟩

theorem bind_eq_error {reason : ε} (h : (first >>= next) = .error reason) :
    first = .error reason ∨ ∃ a, first = .ok a ∧ next a = .error reason := by
  cases first with
  | error =>
    cases h
    exact .inl rfl
  | ok a => exact .inr ⟨a, rfl, h⟩

end ApiLoad
