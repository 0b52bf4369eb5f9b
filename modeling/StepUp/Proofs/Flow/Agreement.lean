import StepUp.Proofs.Flow.Finishing
import StepUp.Proofs.Flow.Invariant

/-!
# Outcomes and finishing agree

After a step that succeeds, its outcome tells whether the attempt can be finished: `completed` when
it can, and a request when `finish` would miss the method of that request.  This holds of every step
whose outcome does not require a method with a blank name, and of no other.
-/

namespace StepUp

open Cached

namespace Service

section

variable [Regex.Dialect] {s : Service} {x y : Attempt} {o : Outcome} {now : Time.Timestamp}

/-- A step that succeeds: the primary one, or the one of the selected method. -/
inductive Step (s : Service) (x : Attempt) (o : Outcome) (y : Attempt) : Prop
  | primary (q : LoginRequest) (a : Authentication) (credential : Option Credential)
      (c : PatternCache) : (s.completePrimary x q a credential c).1 = (.ok o, y) → Step s x o y
  | method (a : Authentication) (credential : Option Credential) :
      s.completeMethod x a credential = (.ok o, y) → Step s x o y

/-- An outcome tells what `finish` does with an attempt. -/
structure Tells (s : Service) (x : Attempt) (now : Time.Timestamp) (o : Outcome) : Prop where
  completed : o = .completed ↔ ∃ a, s.finish x now = .ok a
  required : ∀ r, o = .requireMethod r ↔
    x.selected = some r ∧ s.finish x now = .error (unmet x r)

/-- A step that succeeds has chained something, and its outcome is that of the chain. -/
theorem Step.outcome (h : s.Step x o y) : s.outcome y = .ok o ∧ y.chain.isEmpty = false := by
  cases h with
  | primary q a credential c h =>
      obtain ⟨found, chained, -, hchained, hselect, hout⟩ := completePrimary_eq_ok h
      obtain ⟨-, -, happend, -⟩ := chainPrimary_eq_ok hchained
      exact ⟨hout, (frame_of_selectStrongest hselect).2 ▸ Chain.isEmpty_of_append happend⟩
  | method a credential h =>
      cases hx : x.selected with
      | none =>
          rw [completeMethod_of_not_selected hx] at h
          cases h
      | some r =>
          rw [completeMethod_of_selected hx] at h
          split at h
          next => cases h
          next chain happend =>
              obtain ⟨hout, rfl⟩ := Prod.mk.inj h
              exact ⟨hout, Chain.isEmpty_of_append happend⟩

omit [Regex.Dialect] in
theorem tells_of_completed (hne : x.chain.isEmpty = false) (h : s.outcome x = .ok .completed) :
    s.Tells x now .completed := by
  obtain ⟨a, -, hfinish⟩ := finish_of_completed hne h now
  refine ⟨iff_of_true rfl ⟨a, hfinish⟩, fun r => iff_of_false (by simp) ?_⟩
  rintro ⟨-, herror⟩
  rw [hfinish] at herror
  cases herror

theorem tells_of_required (hs : s.Built) (hne : x.chain.isEmpty = false) {r : MethodRequest}
    (h : s.outcome x = .ok (.requireMethod r)) (hblank : Text.blank r.method = false) :
    s.Tells x now (.requireMethod r) := by
  have hselected := (outcome_eq_requireMethod_iff.1 h).1
  have hfinish := finish_of_required hs hne h hblank now
  refine ⟨iff_of_false (by simp) ?_, fun r' => ?_⟩
  · rintro ⟨a, ha⟩
    rw [hfinish] at ha
    cases ha
  · constructor
    · intro heq
      cases heq
      exact ⟨hselected, hfinish⟩
    · rintro ⟨hr', -⟩
      rw [hselected] at hr'
      cases hr'
      rfl

/-- The outcome of a step tells what `finish` does, exactly when it requires no method with a blank
name. -/
theorem step_tells_iff (hs : s.Built) (h : s.Step x o y) (now : Time.Timestamp) :
    s.Tells y now o ↔ ∀ r, o = .requireMethod r → Text.blank r.method = false := by
  obtain ⟨hout, hne⟩ := h.outcome
  cases o with
  | completed => exact iff_of_true (tells_of_completed hne hout) (by simp)
  | requireMethod r =>
      constructor
      · rintro htells r' heq
        cases heq
        by_contra hblank
        have hfinish := finish_of_blank hne hout (by simpa using hblank) now
        cases htells.completed.2 hfinish
      · intro hblank
        exact tells_of_required hs hne hout (hblank r rfl)

end

theorem step_tells_duo_unrecognized :
    small.Step smallAttempt (.requireMethod ⟨"duo", "app", .serviceDefinition⟩) afterOtp ∧
      small.finish afterOtp .epoch = .error (.unrecognizedMethod "duo" "app") ∧
      small.Tells afterOtp .epoch (.requireMethod ⟨"duo", "app", .serviceDefinition⟩) := by
  have hstep : small.Step smallAttempt (.requireMethod ⟨"duo", "app", .serviceDefinition⟩)
      afterOtp :=
    .primary smallRequest (aliceWith (.str "otp")) none .empty rfl
  refine ⟨hstep, rfl, (step_tells_iff small_built hstep .epoch).2 fun r hr => ?_⟩
  cases hr
  decide

/-- The attempt with which a login to a service begins that nobody requires a method of. -/
def freeAttempt : Attempt :=
  .start none none

/-- A principal demands the method with the blank name: the step requires it, and the attempt can be
finished without. -/
theorem blank_method_required_and_finished :
    small.Built ∧ small.Reachable { serviceId := "other" } freeAttempt ∧
      ∃ y a, small.Step freeAttempt (.requireMethod ⟨"", "other", .principalAttribute⟩) y ∧
        small.finish y .epoch = .ok a := by
  refine ⟨small_built, .begin (c := .empty) rfl, _, _,
    .primary { serviceId := "other" } (demandedOf "") none .empty rfl, rfl⟩

end Service

end StepUp
