/-!
# Outcomes

A computation that can fail has an outcome, which is a value or an error.  The outcome of a
computation in parts is taken back here to the outcomes of its parts.
-/

namespace StepUp.Outcome

variable {ε ε' α β : Type} {x : Except ε α} {f : α → Except ε β} {a : α} {b : β} {e : ε}

/-- A computation in two parts succeeds through both. -/
theorem bind_eq_ok : (x >>= f) = .ok b ↔ ∃ a, x = .ok a ∧ f a = .ok b := by
  constructor
  · intro h
    cases x with
    | error e => cases h
    | ok a => exact ⟨a, rfl, h⟩
  · rintro ⟨a, rfl, h⟩
    exact h

/-- It fails in its first part, or in its second part after the first. -/
theorem bind_eq_error : (x >>= f) = .error e ↔ x = .error e ∨ ∃ a, x = .ok a ∧ f a = .error e := by
  constructor
  · intro h
    cases x with
    | error e' =>
        cases h
        exact .inl rfl
    | ok a => exact .inr ⟨a, rfl, h⟩
  · rintro (rfl | ⟨a, rfl, h⟩)
    · rfl
    · exact h

theorem mapError_eq_ok {g : ε → ε'} : x.mapError g = .ok a ↔ x = .ok a := by
  constructor
  · intro h
    cases x <;> cases h
    rfl
  · rintro rfl
    rfl

theorem toOption_eq_some : x.toOption = some a ↔ x = .ok a := by
  constructor
  · intro h
    cases x <;> cases h
    rfl
  · rintro rfl
    rfl

end StepUp.Outcome
