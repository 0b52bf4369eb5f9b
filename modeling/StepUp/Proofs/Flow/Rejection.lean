import StepUp.Proofs.Flow.Aggregation
import StepUp.Proofs.Flow.Identity
import StepUp.Proofs.Ranking.Coverage

/-!
# What the primary step refuses

The primary step looks at the principal, stages the request that it finds, chains the authentication
and asks the ranking.  Each part can fail, but only two of them refuse the step.

* Looking at the principal is resolution, which fails but never refuses (`Cached.NeverRefuses`).
* The transaction refuses a request for another service, and one more from a source that it already
  holds (`Service.stagedWith_eq_error_iff`).  The request comes from the principal, so there is one
  source that can be taken.
* The chain refuses another principal than the one it has (`Chain.Of.append_eq_error_iff`).  The
  chain of an attempt that a run reaches has only one.
* The ranking of a service that was built fails on methods that nobody registered, and in no other
  way (`Service.unregistered_of_settle_eq_error`).

The parts come in this order, so the transaction is heard before the chain.  `Attempt.Refuses` lists
the cases, and `Service.primary_rejected_iff` says that the primary step is refused in these cases
and for no other reason.
-/

namespace StepUp

open Cached

/-! ## Reasons to refuse -/

namespace Attempt

/-- The transaction has a place for the request that was found for the principal, if there are
both. -/
def HasPlaceFor (x : Attempt) (q : LoginRequest) (found : Option MethodRequest) : Prop :=
  ∀ r t, found = some r → x.transaction = some t →
    t.target = q.serviceId ∧ t.containsSource .principalAttribute = false

/-- Why an attempt refuses a login with an authentication for which a request was found, if any. -/
inductive Refuses (x : Attempt) (q : LoginRequest) (a : Authentication) :
    Option MethodRequest → FlowError → Prop
  /-- The transaction is for another service. -/
  | otherTarget {r : MethodRequest} {t : Transaction} : x.transaction = some t →
      t.target ≠ q.serviceId → Refuses x q a (some r) (.targetServiceMismatch t.target q.serviceId)
  /-- The transaction is for this service, and holds a request from the principal already. -/
  | sourceTaken {r : MethodRequest} {t : Transaction} : x.transaction = some t →
      t.target = q.serviceId → t.containsSource .principalAttribute = true →
      Refuses x q a (some r) (.duplicateSource .principalAttribute)
  /-- The chain is of another principal. -/
  | otherPrincipal {found : Option MethodRequest} {id : String} : x.HasPlaceFor q found →
      x.chain.isEmpty = false → x.chain.Of id → id ≠ a.principal.id →
      Refuses x q a found (.identityMismatch id a.principal.id)

end Attempt

namespace Service

section

variable {s : Service} {x y : Attempt} {q begun : LoginRequest} {a : Authentication}
  {credential : Option Credential} {found : Option MethodRequest}
  {f : FlowError}

/-! ## The parts of the primary step -/

section Chaining

variable (hfrom : ∀ r, found = some r → r.source = .principalAttribute ∧ r.target = q.serviceId)

include hfrom

/-- A transaction refuses what the principal demands of another service, and what it demands
twice. -/
theorem stagedWith_eq_error_iff {current : Option Transaction} :
    stagedWith current found = .error f ↔ ∃ r t, found = some r ∧ current = some t ∧
      (t.target ≠ q.serviceId ∧ f = .targetServiceMismatch t.target q.serviceId ∨
        t.target = q.serviceId ∧ t.containsSource .principalAttribute = true ∧
          f = .duplicateSource .principalAttribute) := by
  cases found with
  | none => simp [stagedWith]
  | some r =>
      obtain ⟨hsource, htarget⟩ := hfrom r rfl
      cases current with
      | none => simp [stagedWith, stage, Except.map]
      | some t =>
          have hadd : stagedWith (some t) (some r) = .error f ↔ t.add r = .error f := by
            rw [stagedWith_some_some]
            cases t.add r <;> simp [Except.map]
          rw [hadd, Transaction.add_eq_error_iff, hsource, htarget]
          simp

/-- What has its place is staged, and nothing else. -/
theorem hasPlaceFor_iff :
    x.HasPlaceFor q found ↔ ∃ staged, stagedWith x.transaction found = .ok staged := by
  unfold Attempt.HasPlaceFor
  cases found with
  | none => simp [stagedWith]
  | some r =>
      obtain ⟨hsource, htarget⟩ := hfrom r rfl
      cases x.transaction with
      | none => simp [stagedWith, stage, Except.map]
      | some t =>
          have hadd : (∃ staged, stagedWith (some t) (some r) = .ok staged) ↔
              ∃ u, t.add r = .ok u := by
            rw [stagedWith_some_some]
            cases t.add r <;> simp [Except.map]
          rw [hadd]
          simp [Transaction.add_eq_ok_iff, hsource, htarget, eq_comm (a := t.target)]

/-- Chaining the primary login fails for the reasons that the attempt has to refuse it. -/
theorem chainPrimary_eq_error_iff_refuses (hx : x.Rooted) (a : Authentication)
    (credential : Option Credential) :
    chainPrimary x found a credential = .error f ↔ x.Refuses q a found f := by
  obtain ⟨id, hid⟩ := hx.uniform
  rw [chainPrimary_eq_error_iff, stagedWith_eq_error_iff hfrom, ← hasPlaceFor_iff hfrom,
    hid.append_eq_error_iff]
  constructor
  · rintro (⟨r, t, rfl, ht, ⟨hother, rfl⟩ | ⟨htarget, htaken, rfl⟩⟩ | ⟨hplace, hne, hother, rfl⟩)
    · exact .otherTarget ht hother
    · exact .sourceTaken ht htarget htaken
    · exact .otherPrincipal hplace hne hid hother
  · intro h
    cases h with
    | otherTarget ht hother => exact Or.inl ⟨_, _, rfl, ht, Or.inl ⟨hother, rfl⟩⟩
    | sourceTaken ht htarget htaken => exact Or.inl ⟨_, _, rfl, ht, Or.inr ⟨htarget, htaken, rfl⟩⟩
    | otherPrincipal hplace hne hof hother =>
        cases hof.unique hid hne
        exact Or.inr ⟨hplace, hne, hother, rfl⟩

end Chaining

variable [Regex.Dialect] {c : PatternCache}

/-- What the principal demands is not refused while it is looked for. -/
theorem neverRefuses_principalDemand (s : Service) (x : Attempt) (q : LoginRequest)
    (a : Authentication) : NeverRefuses (s.principalDemand x q a) := by
  intro c f h
  rw [answer_principalDemand] at h
  split at h
  next => cases h
  next => exact neverRefuses_stepwise.resolvePrincipal _ _ c f h

/-- A service that was built settles an attempt, unless a method is not registered. -/
theorem unregistered_of_settle_eq_error (hs : s.Built) {e : ServiceError}
    (h : (s.settle y).1 = .error e) : ∃ n, e = .unregisteredMethod n := by
  unfold settle at h
  cases hselect : s.selectStrongest y with
  | error e' =>
      rw [hselect] at h
      cases h
      obtain ⟨-, t, -, hhigh⟩ := selectStrongest_fails_iff.1 hselect
      rw [hs.strategy_eq] at hhigh
      obtain ⟨r, -, hunregistered⟩ := Registry.strongest_eq_error_iff.1 hhigh
      exact ⟨r.method, hunregistered⟩
  | ok z =>
      rw [hselect] at h
      obtain ⟨r, -, hcovers⟩ := outcome_fails_iff.1 h
      rw [hs.covers_eq] at hcovers
      obtain ⟨n, hunregistered, -⟩ := Ranking.unregistered_of_covers_eq_error hcovers
      exact ⟨n, hunregistered⟩

/-! ## The primary step -/

/-- A primary step fails where looking at the principal fails.  Otherwise it is refused exactly
where the attempt has a reason to refuse it: the request found is for another service than the
transaction, or it is one more from the principal, or else the chain is of another principal. -/
theorem primary_rejected_iff (hs : s.Built) (hx : s.Reachable begun x) (q : LoginRequest)
    (a : Authentication) (credential : Option Credential) (c : PatternCache) :
    (∀ e, answer (s.principalDemand x q a) c = .error e →
      (s.completePrimary x q a credential c).1 = (.error e, x)) ∧
    ∀ f, (s.completePrimary x q a credential c).1.1 = .error (.rejected f) ↔
      ∃ found, answer (s.principalDemand x q a) c = .ok found ∧ x.Refuses q a found f := by
  rw [completePrimary_eq]
  cases hdemand : answer (s.principalDemand x q a) c with
  | error e =>
      refine ⟨fun e' he => ?_, fun f => ?_⟩
      · cases he
        rfl
      · refine iff_of_false (fun h => ?_) (by simp)
        cases h
        exact neverRefuses_principalDemand s x q a c f hdemand
  | ok found =>
      refine ⟨by simp, fun f => ?_⟩
      have hfrom : ∀ r, found = some r →
          r.source = .principalAttribute ∧ r.target = q.serviceId := by
        rintro r rfl
        exact from_principalDemand hdemand
      simp only [Except.ok.injEq, exists_eq_left']
      rw [← chainPrimary_eq_error_iff_refuses hfrom hx.rooted a credential]
      unfold primaryStep
      cases hchained : chainPrimary x found a credential with
      | error f' => simp
      | ok chained =>
          -- what was chained can only fail to be ranked
          refine iff_of_false (fun h => ?_) (by simp)
          obtain ⟨n, hunregistered⟩ := unregistered_of_settle_eq_error hs h
          cases hunregistered

end

/-- The attempt with which a login begins whose session demands the method of the application. -/
def demandedAttempt : Attempt :=
  .start (some {
    target := "app"
    primary := some (demandedOf "duo")
    requests := [⟨"duo", "app", .serviceDefinition⟩, ⟨"duo", "app", .principalAttribute⟩] })
    (some (demandedOf "duo"))

theorem reachable_demandedAttempt :
    (smallWithSession (demandedOf "duo")).Reachable sessionRequest demandedAttempt :=
  .begin (show answer ((smallWithSession (demandedOf "duo")).begin sessionRequest) .empty =
    .ok demandedAttempt from rfl)

/-- Each reason occurs: a principal demands a method elsewhere than at the application of the
attempt, or demands one after its session has demanded one already, or another principal goes on
with the chain of the first. -/
theorem small_primary_rejected :
    (small.completePrimary smallAttempt { serviceId := "other" } (demandedOf "otp") none
          .empty).1.1 =
        .error (.rejected (.targetServiceMismatch "app" "other")) ∧
      ((smallWithSession (demandedOf "duo")).completePrimary demandedAttempt sessionRequest
          (demandedOf "otp") none .empty).1.1 =
        .error (.rejected (.duplicateSource .principalAttribute)) ∧
      (small.completePrimary afterOtp smallRequest bob none .empty).1.1 =
        .error (.rejected (.identityMismatch "alice" "bob")) := by
  refine ⟨?_, ?_, ?_⟩
  · have hrejected := primary_rejected_iff small_built reachable_smallAttempt
      { serviceId := "other" } (demandedOf "otp") none .empty
    exact (hrejected.2 _).2 ⟨some ⟨"otp", "other", .principalAttribute⟩, rfl,
      .otherTarget (t := .ofRequest ⟨"duo", "app", .serviceDefinition⟩) rfl (by decide)⟩
  · have hrejected := primary_rejected_iff (smallWithSession_built (demandedOf "duo"))
      reachable_demandedAttempt sessionRequest (demandedOf "otp") none .empty
    exact (hrejected.2 _).2
      ⟨some ⟨"otp", "app", .principalAttribute⟩, rfl, .sourceTaken rfl rfl rfl⟩
  · have hrejected := primary_rejected_iff small_built reachable_afterOtp smallRequest bob none
      .empty
    have hplace : afterOtp.HasPlaceFor smallRequest none := by
      intro r t hr
      cases hr
    have hof : afterOtp.chain.Of "alice" := by
      intro a ha
      rw [List.mem_singleton.1 ha]
      rfl
    exact (hrejected.2 _).2 ⟨none, rfl, .otherPrincipal hplace rfl hof (by decide)⟩

end Service

end StepUp
