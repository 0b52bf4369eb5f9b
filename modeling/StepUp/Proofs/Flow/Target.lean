import StepUp.Proofs.Flow.Agreement
import StepUp.Proofs.Flow.Effects

/-!
# The service of an attempt

An attempt does not record the service that it was begun for.  What it has is the target of its
transaction, which every request has to share, and this target never changes.  So the service of an
attempt depends on the step that made its transaction (`Service.target_of_run`):

* a transaction made by `begin` is for the service of the request with which the attempt began;
* where `begin` found nothing to require, the transaction is made by the first primary step that
  finds a request in the principal, and it is for the service which that step names.

From then on requests for another service are refused before anything is chained.  Until then no
service is known to the attempt, and the two may differ (`Service.primary_step_names_the_service`).
What is selected is for the same service as long as the ranking picks among the requests
(`Strategy.Picks`); an answer of its own is not looked at
(`Service.selection_of_astray_misses_the_target`).
-/

namespace StepUp

open Cached

/-- A ranking picks among the requests of the transaction that it is asked about. -/
def Strategy.Picks (k : Strategy) : Prop :=
  ∀ t r, k.highest t = .ok (some r) → r ∈ t.requests

theorem Ranking.picks (k : Ranking) : k.strategy.Picks :=
  fun _ _ h => (Registry.isStrongest_of_strongest h).2.mem

namespace Service

section

variable [Regex.Dialect] {s : Service} {x y : Attempt} {q q' : LoginRequest} {c c' : PatternCache}

/-! ## Where the transaction comes from -/

/-- A transaction that `begin` makes is for the service of its request. -/
theorem target_of_begin (h : answer (s.begin q) c = .ok x) {t : Transaction}
    (ht : x.transaction = some t) : t.target = q.serviceId := by
  obtain ⟨haggregate, -⟩ := of_begin h
  rw [ht] at haggregate
  exact (Aggregator.new_of_aggregate haggregate).1

/-- A transaction that is not made by `begin` is made by a primary step on the way. -/
theorem exists_step_of_created (hy : s.Leads x y) (hnone : x.transaction = none) {u : Transaction}
    (hu : y.transaction = some u) :
    ∃ z q' a credential c' r, s.Leads x z ∧ z.transaction = none ∧
      answer (s.principalDemand z q' a) c' = .ok (some r) ∧
      (s.after z c' (.completePrimary q' a credential)).transaction.isSome = true ∧
      s.Leads (s.after z c' (.completePrimary q' a credential)) y ∧ u.target = q'.serviceId := by
  induction hy generalizing u with
  | refl => simp [hnone] at hu
  | @call w call c hw ih =>
      have heffect := effect_after s w c call
      cases hwt : w.transaction with
      | none =>
          -- this is the call that makes it
          obtain ⟨q', a, credential, r, rfl, hdemand, htarget⟩ := heffect.created hwt hu
          exact ⟨w, q', a, credential, c, r, hw, hwt, hdemand, by simp [hu], .refl, htarget⟩
      | some t =>
          obtain ⟨u', hu', hcontinues⟩ := heffect.transaction hwt
          obtain ⟨z, q', a, credential, c', r, hz, hznone, hdemand, hmade, hzw, htarget⟩ := ih hwt
          rw [hu] at hu'
          cases hu'
          exact ⟨z, q', a, credential, c', r, hz, hznone, hdemand, hmade, .call call c hzw,
            hcontinues.target.trans htarget⟩

/-! ## The selection -/

/-- What is selected is a request of the transaction. -/
theorem selected_mem_of_leads (hpicks : s.strategy.Picks) (hy : s.Leads x y)
    (hx : x.selected = none) {r : MethodRequest} (hr : y.selected = some r) :
    ∃ u, y.transaction = some u ∧ r ∈ u.requests := by
  induction hy generalizing r with
  | refl => simp [hx] at hr
  | @call w call c _ ih =>
      have heffect := effect_after s w c call
      rcases heffect.selected with hsame | ⟨t, r', ht, hhigh, hnew⟩
      · obtain ⟨t, ht, hmem⟩ := ih (hsame ▸ hr)
        obtain ⟨u, hu, hcontinues⟩ := heffect.transaction ht
        exact ⟨u, hu, hcontinues.requests.subset hmem⟩
      · rw [hr] at hnew
        cases hnew
        exact ⟨t, ht, hpicks t r hhigh⟩

/-! ## Requests for another service -/

omit [Regex.Dialect] in
theorem stage_of_other_target {t : Transaction} {r : MethodRequest} (h : r.target ≠ t.target) :
    stage (some t) r = .error (.targetServiceMismatch t.target r.target) := by
  simp [stage, Transaction.add, h]

/-- A request that the principal demands for another service than that of the transaction is
refused, and the attempt stays as it is. -/
theorem completePrimary_of_other_target {t : Transaction} (ht : x.transaction = some t)
    {a : Authentication} {r : MethodRequest}
    (hdemand : answer (s.principalDemand x q a) c = .ok (some r)) (hother : q.serviceId ≠ t.target)
    (credential : Option Credential) :
    (s.completePrimary x q a credential c).1 =
      (.error (.rejected (.targetServiceMismatch t.target q.serviceId)), x) := by
  have htarget := (from_principalDemand hdemand).2
  have hstage : stage x.transaction r = .error (.targetServiceMismatch t.target q.serviceId) := by
    rw [ht, ← htarget]
    exact stage_of_other_target (by rw [htarget]; exact hother)
  rw [completePrimary_eq, hdemand]
  simp [primaryStep, chainPrimary, hstage]

/-! ## Runs -/

/-- A transaction that was there when the attempt began is for the service of its request, and one
that was made later is for the service that the primary step named which made it.  The selection, if
the ranking picks it among the requests, shares the target of the transaction; and the primary step
refuses a request for another. -/
theorem target_of_run (hbegin : answer (s.begin q) c = .ok x) (hy : s.Leads x y) :
    (∀ t, x.transaction = some t → ∃ u, y.transaction = some u ∧ u.target = q.serviceId) ∧
    (x.transaction = none → ∀ u, y.transaction = some u →
      ∃ z q' a credential c' r, s.Leads x z ∧ z.transaction = none ∧
        answer (s.principalDemand z q' a) c' = .ok (some r) ∧
        (s.after z c' (.completePrimary q' a credential)).transaction.isSome = true ∧
        s.Leads (s.after z c' (.completePrimary q' a credential)) y ∧ u.target = q'.serviceId) ∧
    (s.strategy.Picks → ∀ r, y.selected = some r →
      ∃ u, y.transaction = some u ∧ r.target = u.target) ∧
    ∀ u q' a credential c' r, y.transaction = some u →
      answer (s.principalDemand y q' a) c' = .ok (some r) → q'.serviceId ≠ u.target →
      (s.completePrimary y q' a credential c').1 =
        (.error (.rejected (.targetServiceMismatch u.target q'.serviceId)), y) := by
  refine ⟨fun t ht => ?_, fun hnone u hu => exists_step_of_created hy hnone hu, ?_, ?_⟩
  · obtain ⟨u, hu, hcontinues⟩ := hy.transaction ht
    exact ⟨u, hu, hcontinues.target.trans (target_of_begin hbegin ht)⟩
  · intro hpicks r hr
    obtain ⟨-, -, hunselected, -⟩ := of_begin hbegin
    obtain ⟨u, hu, hmem⟩ := selected_mem_of_leads hpicks hy hunselected hr
    have hsound := hy.sound (settled_begin hbegin).sound hu
    exact ⟨u, hu, hsound.targets r hmem⟩
  · intro u q' a credential c' r hu hdemand hother
    exact completePrimary_of_other_target hu hdemand hother credential

end

/-- A login to the application of the small service, whose transaction `begin` makes: the strongest
method is selected for the application, and a principal that demands one elsewhere is refused. -/
theorem target_of_run_to_app :
    answer (small.begin smallRequest) .empty = .ok smallAttempt ∧
      small.Leads smallAttempt afterOtp ∧
      (∃ u, afterOtp.transaction = some u ∧ u.target = "app") ∧
      (∃ u, afterOtp.transaction = some u ∧ "app" = u.target) ∧
      (small.completePrimary smallAttempt { serviceId := "other" } (demandedOf "otp") none
          .empty).1 =
        (.error (.rejected (.targetServiceMismatch "app" "other")), smallAttempt) := by
  have hbegin : answer (small.begin smallRequest) .empty = .ok smallAttempt := rfl
  have hleads : small.Leads smallAttempt afterOtp := .call _ _ .refl
  obtain ⟨hbegun, -, hselected, -⟩ := target_of_run hbegin hleads
  obtain ⟨-, -, -, hother⟩ := target_of_run hbegin .refl
  refine ⟨hbegin, hleads, hbegun _ rfl, ?_, ?_⟩
  · exact hselected (Ranking.picks _) ⟨"duo", "app", .serviceDefinition⟩ rfl
  · exact hother _ { serviceId := "other" } (demandedOf "otp") none .empty _ rfl rfl (by decide)

/-- A login to a service that requires nothing: the primary step names the application, for which
the principal demands a method, and the attempt is for the application then. -/
theorem primary_step_names_the_service :
    small.Built ∧ answer (small.begin { serviceId := "other" }) .empty = .ok freeAttempt ∧
      ∃ y, (small.completePrimary freeAttempt smallRequest (demandedOf "duo") none .empty).1 =
          (.ok (.requireMethod ⟨"duo", "app", .principalAttribute⟩), y) ∧
        small.Leads freeAttempt y ∧ y.transaction.map (·.target) = some "app" ∧
        y.selected = some ⟨"duo", "app", .principalAttribute⟩ :=
  ⟨small_built, rfl, _, rfl,
    .call (.completePrimary smallRequest (demandedOf "duo") none) .empty .refl, rfl, rfl⟩

/-- A ranking that does not look at the requests it is asked about, and answers one for another
service. -/
def astray : Strategy where
  highest _ := .ok (some ⟨"otp", "elsewhere", .requestParam⟩)
  covers := (Ranking.mk smallRegistry).covers

/-- The answer of a ranking is selected as it is.  Where it is none of the requests, the selection
does not share the target of the transaction. -/
theorem selection_of_astray_misses_the_target :
    small.Built ∧ ¬ astray.Picks ∧
      answer ((small.withStrategy astray).begin smallRequest) .empty = .ok smallAttempt ∧
      ∃ y, ((small.withStrategy astray).completePrimary smallAttempt smallRequest (aliceWith .null)
          none .empty).1 = (.ok (.requireMethod ⟨"otp", "elsewhere", .requestParam⟩), y) ∧
        (small.withStrategy astray).Leads smallAttempt y ∧
        y.transaction.map (·.target) = some "app" ∧
        y.selected.map (·.target) = some "elsewhere" := by
  refine ⟨small_built, ?_, rfl, _, rfl, ?_, rfl, rfl⟩
  · intro hpicks
    have hmem := hpicks { target := "app" } _ rfl
    exact absurd hmem List.not_mem_nil
  · exact .call (.completePrimary smallRequest (aliceWith .null) none) .empty .refl

end Service

end StepUp
