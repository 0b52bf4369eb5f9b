import StepUp.Proofs.Flow.Operations
import StepUp.Proofs.Flow.Run
import StepUp.Proofs.Ranking.Coverage

/-!
# Finishing

A step and `finish` decide in different ways whether a chain has what is required.  The step asks
the ranking whether the chain covers the selection.  `finish` asks that too, and where the chain
does not, it looks for the name of the selected method among the methods of the composite.

The composite records what the chain does, and a name that is not covered is not recorded, for it
would cover itself.  So `finish` follows the outcome of the chain, unless the name of the selected
method is blank: such a name is not looked for.
-/

namespace StepUp

namespace Service

variable {s : Service} {x : Attempt} {r : MethodRequest}

/-- What is said of an attempt that finishes without the method of a request: the method is not
available where nothing is satisfied, and not recognized where other methods are. -/
def unmet (x : Attempt) (r : MethodRequest) : ServiceError :=
  if x.chain.satisfiedMethods.isEmpty then .unacceptableMethod r.method
  else .unrecognizedMethod r.method r.target

theorem finish_of_outcome_error (hne : x.chain.isEmpty = false) {e : ServiceError}
    (h : s.outcome x = .error e) (now : Time.Timestamp) : s.finish x now = .error e := by
  obtain ⟨r, hr, hcovers⟩ := outcome_fails_iff.1 h
  obtain ⟨a, -, hfinish⟩ := finish_of_chained s hne now
  rw [hfinish, hr]
  simp only [hcovers]

/-- What is completed finishes with the methods of the chain. -/
theorem finish_of_completed (hne : x.chain.isEmpty = false) (h : s.outcome x = .ok .completed)
    (now : Time.Timestamp) :
    ∃ a, a.satisfiedMethods = x.chain.satisfiedMethods ∧ s.finish x now = .ok a := by
  obtain ⟨a, hmethods, hfinish⟩ := finish_of_chained s hne now
  refine ⟨a, hmethods, ?_⟩
  rw [hfinish]
  cases hr : x.selected with
  | none => rfl
  | some r =>
      have hcovers := outcome_eq_completed_iff.1 h r hr
      simp only [hcovers]

/-- A method with a blank name is required of nobody when the attempt finishes. -/
theorem finish_of_blank (hne : x.chain.isEmpty = false)
    (h : s.outcome x = .ok (.requireMethod r)) (hblank : Text.blank r.method = true)
    (now : Time.Timestamp) : ∃ a, s.finish x now = .ok a := by
  obtain ⟨hr, hcovers⟩ := outcome_eq_requireMethod_iff.1 h
  obtain ⟨a, -, hfinish⟩ := finish_of_chained s hne now
  refine ⟨a, ?_⟩
  rw [hfinish, hr]
  simp only [hcovers, hblank, if_true]

theorem isEmpty_of_finish {a : Authentication} {now : Time.Timestamp}
    (h : s.finish x now = .ok a) : x.chain.isEmpty = false := by
  cases hempty : x.chain.isEmpty with
  | false => rfl
  | true =>
      rw [finish_of_isEmpty hempty] at h
      cases h

variable [Regex.Dialect]

/-- A method that is still required, and has a name, is missing when the attempt finishes. -/
theorem finish_of_required (hs : s.Built) (hne : x.chain.isEmpty = false)
    (h : s.outcome x = .ok (.requireMethod r)) (hblank : Text.blank r.method = false)
    (now : Time.Timestamp) : s.finish x now = .error (unmet x r) := by
  obtain ⟨hr, hcovers⟩ := outcome_eq_requireMethod_iff.1 h
  obtain ⟨a, -, hfinish⟩ := finish_of_chained s hne now
  -- a recorded name would cover itself
  have habsent : r.method ∉ x.chain.satisfiedMethods :=
    Ranking.not_mem_of_covers_eq_false (hs.covers_eq x.chain r ▸ hcovers)
  have hcontains : x.chain.satisfiedMethods.contains r.method = false := by
    rw [← Bool.not_eq_true, Text.NameSet.contains_iff]
    exact habsent
  rw [hfinish, hr]
  simp only [hcovers, hblank, hcontains, Bool.false_eq_true, if_false]
  unfold unmet
  split <;> rfl

/-- What finishes was completed, or its selected method has a blank name. -/
theorem completed_of_finish (hs : s.Built) {a : Authentication} {now : Time.Timestamp}
    (h : s.finish x now = .ok a) (hblank : ∀ r, x.selected = some r → Text.blank r.method = false) :
    s.outcome x = .ok .completed := by
  have hne := isEmpty_of_finish h
  cases hout : s.outcome x with
  | error e =>
      rw [finish_of_outcome_error hne hout now] at h
      cases h
  | ok o =>
      cases o with
      | completed => rfl
      | requireMethod r =>
          have hr := (outcome_eq_requireMethod_iff.1 hout).1
          rw [finish_of_required hs hne hout (hblank r hr) now] at h
          cases h

end Service

end StepUp
