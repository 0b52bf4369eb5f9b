import StepUp.Proofs.Flow.Finishing
import StepUp.Proofs.Flow.Invariant

/-!
# Enforcement

What finishes has satisfied what was required: the composite authentication of a run records a
method that is at least as strong as every method requested in the transaction.

The requirement that `finish` checks is only about the selection, so the argument goes through the
invariant of runs: something is chained, hence a request is selected, and it is the strongest one of
the transaction.  A blank name is required of nobody, which is why the strongest request must not
have one.
-/

namespace StepUp

namespace Service

section

variable [Regex.Dialect] {s : Service} {q : LoginRequest} {x : Attempt} {a : Authentication}
  {now : Time.Timestamp} {r : MethodRequest}

/-- What finishes with a selection is covered by a registered method of the composite. -/
theorem covered_of_finish (hs : s.Built) (h : s.finish x now = .ok a) (hr : x.selected = some r)
    (hregistered : s.registry.contains r.method = true) (hblank : Text.blank r.method = false) :
    ∃ n ∈ a.satisfiedMethods, s.registry.AtLeast n r.method := by
  have hcompleted : s.outcome x = .ok .completed := by
    refine completed_of_finish hs h fun r' hr' => ?_
    rw [hr] at hr'
    cases hr'
    exact hblank
  obtain ⟨composite, hmethods, hfinish⟩ :=
    finish_of_completed (isEmpty_of_finish h) hcompleted now
  rw [h] at hfinish
  cases hfinish
  have hcovers := outcome_eq_completed_iff.1 hcompleted r hr
  rw [hs.covers_eq, Ranking.covers_eq_true_iff hregistered] at hcovers
  obtain ⟨n, hn, hstrong, -⟩ := hcovers
  exact ⟨n, hmethods ▸ hn, hstrong⟩

/-- A run that finishes has satisfied a registered method that is at least as strong as every method
requested in the transaction, unless the strongest of these has a blank name. -/
theorem finish_enforces_requests (hs : s.Built) (hx : s.Reachable q x)
    (hfinish : s.finish x now = .ok a) {t : Transaction} (ht : x.transaction = some t)
    (hr : s.registry.IsStrongest t.requests r) (hblank : Text.blank r.method = false) :
    ∃ n ∈ a.satisfiedMethods, s.registry.contains n = true ∧
      ∀ p ∈ t.requests, s.registry.AtLeast n p.method := by
  have hsettled := hx.settled hs
  have hselected := (hsettled.selected_iff (isEmpty_of_finish hfinish)).2 ⟨t, ht, hr⟩
  have hregistered := hsettled.contains_selected hselected
  obtain ⟨n, hn, hstrong⟩ := covered_of_finish hs hfinish hselected hregistered hblank
  refine ⟨n, hn, hstrong.contains_left, fun p hp => hstrong.trans ?_⟩
  have hp' := (hsettled.sound t ht).registered p hp
  rw [Registry.atLeast_iff_rankOf_le hregistered hp']
  exact Registry.rankOf_le_of_place_le (hr.le p hp)

end

/-- A login that records a method which is not registered, after which the selected method is
completed: the first call fails when it has chained the login, and the run finishes all the same. -/
def afterFailure : Attempt :=
  small.after
    (small.after smallAttempt .empty (.completePrimary smallRequest (aliceWith (.str "push")) none))
    .empty (.completeMethod (aliceWith .null) none)

theorem reachable_afterFailure : small.Reachable smallRequest afterFailure :=
  .call _ _ (.call _ _ reachable_smallAttempt)

theorem finish_enforces_after_failure :
    (small.completePrimary smallAttempt smallRequest (aliceWith (.str "push")) none .empty).1.1 =
        .error (.unregisteredMethod "push") ∧
      ∃ a t, small.finish afterFailure .epoch = .ok a ∧ afterFailure.transaction = some t ∧
        t.requests = [⟨"duo", "app", .serviceDefinition⟩] ∧
        ∃ n ∈ a.satisfiedMethods, small.registry.contains n = true ∧
          ∀ p ∈ t.requests, small.registry.AtLeast n p.method := by
  have hstrongest : small.registry.IsStrongest [⟨"duo", "app", .serviceDefinition⟩]
      ⟨"duo", "app", .serviceDefinition⟩ :=
    ⟨List.mem_singleton_self _, fun p hp => List.mem_singleton.1 hp ▸ le_refl _⟩
  refine ⟨rfl, _, _, rfl, rfl, rfl, ?_⟩
  exact finish_enforces_requests small_built reachable_afterFailure rfl rfl hstrongest (by decide)

end Service

end StepUp
