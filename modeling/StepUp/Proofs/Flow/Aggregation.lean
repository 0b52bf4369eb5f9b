import StepUp.Proofs.Flow.Run
import StepUp.Proofs.Resolution.Proposals

/-!
# What a service aggregates

A service asks its resolvers in their order, and puts the strongest request of each into one
transaction.  Adding a request to a transaction can be refused, and so can ranking requests for
methods that nobody registered; this file shows that neither happens to a service that was built, so
that aggregating fails only where a resolver does.

Three facts exclude the refusals.

* A resolver makes requests for registered methods only, all from its own source and for the service
  of the login (`Resolution.fit_resolve`).  So they can be ranked, and one of them is the strongest
  (`Aggregator.strongestOf_eq_some_iff`).
* No two resolvers of a service share a source, which is checked when the service is built.  So no
  request meets one of its own source (`Aggregator.answer_aggregate`).
* No step of a resolver refuses anything (`Cached.NeverRefuses`), so neither do its failures.

What is left is a walk through the resolvers: it ends at the first that fails
(`Resolution.FirstFailure`), or collects the strongest request of each that makes any
(`Resolution.Collected`).  `Service.Built.aggregates` puts it all together.
-/

namespace StepUp

open Cached

section

variable [Regex.Dialect]

/-! ## Nothing is refused -/

/-- A computation does not fail with the refusal of a step. -/
def Cached.NeverRefuses {α : Type} (x : Cached α) : Prop :=
  ∀ c f, answer x c ≠ .error (.rejected f)

theorem Cached.neverRefuses_stepwise : Stepwise fun x => NeverRefuses x where
  pure := by
    intro α a c f h
    cases h
  bind := by
    intro α β x g hx hg c f h
    rw [answer_bind] at h
    cases hanswer : answer x c with
    | ok a =>
        rw [hanswer] at h
        exact hg a _ f h
    | error e =>
        rw [hanswer] at h
        cases h
        exact hx c f hanswer
  compiled := by
    intro pattern c f h
    rw [answer_compiledPattern] at h
    cases hcompiled : compileAnchored pattern <;> rw [hcompiled] at h <;> cases h
  required := by
    intro reg name c f h
    rw [answer_liftM] at h
    unfold Registry.require at h
    split at h <;> cases h
  ranked := by
    intro reg l c f h
    rw [answer_liftM] at h
    obtain ⟨r, -, hunregistered⟩ := Registry.strongest_eq_error_iff.1 h
    cases hunregistered
  unrecognized := by
    intro α value serviceId c f h
    cases h

/-! ## One resolver -/

namespace Resolution

variable {res : Resolution} {ctx : ResolutionContext} {source : MethodSource}
  {requests : List MethodRequest} {r q : MethodRequest}

omit [Regex.Dialect] in
/-- Requests that fit differ in nothing but their methods, so only one of them is the strongest. -/
theorem Fit.unique (h : res.Fit ctx source requests) (hr : res.registry.IsStrongest requests r)
    (hq : res.registry.IsStrongest requests q) : r = q :=
  hr.eq_of_target hq ((h.origin r hr.mem).2.trans (h.origin q hq.mem).2.symm)

omit [Regex.Dialect] in
/-- The ranking finds the strongest of requests that fit. -/
theorem Fit.strongest_eq_some_iff (h : res.Fit ctx source requests) :
    res.registry.strongest requests = .ok (some r) ↔ res.registry.IsStrongest requests r := by
  refine ⟨fun hr => (Registry.isStrongest_of_strongest hr).2, fun hr => ?_⟩
  obtain ⟨q, hq⟩ := Registry.exists_strongest h.registered (List.ne_nil_of_mem hr.mem)
  rw [hq, h.unique hr (Registry.isStrongest_of_strongest hq).2]

end Resolution

namespace Aggregator

variable {g : Aggregator} {ctx : ResolutionContext} {c : PatternCache} {kind : ResolverKind}

/-- Asking a resolver for its strongest request is asking it for all of them. -/
theorem answer_strongestOf (kind : ResolverKind) (c : PatternCache) :
    answer (g.strongestOf ctx kind) c =
      match answer (g.resolution.resolve kind ctx) c with
      | .ok requests => g.resolution.registry.strongest requests
      | .error e => .error e := by
  rw [strongestOf, answer_bind]
  cases answer (g.resolution.resolve kind ctx) c with
  | error e => rfl
  | ok requests => exact answer_liftM _ _

theorem strongestOf_eq_error_iff {e : ServiceError} :
    answer (g.strongestOf ctx kind) c = .error e ↔
      answer (g.resolution.resolve kind ctx) c = .error e := by
  rw [answer_strongestOf]
  cases hanswer : answer (g.resolution.resolve kind ctx) c with
  | error e' => simp
  | ok requests =>
      have hregistered := (Resolution.fit_resolve hanswer).registered
      simp [Registry.strongest_of_registered hregistered]

theorem strongestOf_eq_none_iff :
    answer (g.strongestOf ctx kind) c = .ok none ↔
      answer (g.resolution.resolve kind ctx) c = .ok [] := by
  rw [answer_strongestOf]
  cases hanswer : answer (g.resolution.resolve kind ctx) c with
  | error e' => simp
  | ok requests =>
      have hregistered := (Resolution.fit_resolve hanswer).registered
      simp [Registry.strongest_of_registered hregistered, List.argmin_eq_none]

theorem strongestOf_eq_some_iff {r : MethodRequest} :
    answer (g.strongestOf ctx kind) c = .ok (some r) ↔
      ∃ requests, answer (g.resolution.resolve kind ctx) c = .ok requests ∧
        g.resolution.registry.IsStrongest requests r := by
  rw [answer_strongestOf]
  cases hanswer : answer (g.resolution.resolve kind ctx) c with
  | error e' => simp
  | ok requests =>
      simp only [Except.ok.injEq, exists_eq_left']
      exact (Resolution.fit_resolve hanswer).strongest_eq_some_iff

end Aggregator

/-! ## Resolvers in a row -/

namespace Resolution

/-- A resolver fails, and all those that are asked before it answer. -/
def FirstFailure (res : Resolution) (ctx : ResolutionContext) (c : PatternCache)
    (kinds : List ResolverKind) (e : ServiceError) : Prop :=
  ∃ before kind after, kinds = before ++ kind :: after ∧
    (∀ earlier ∈ before, ∃ requests, answer (res.resolve earlier ctx) c = .ok requests) ∧
    answer (res.resolve kind ctx) c = .error e

/-- All resolvers answer, and a list holds in their order the strongest request of each that makes
any. -/
inductive Collected (res : Resolution) (ctx : ResolutionContext) (c : PatternCache) :
    List ResolverKind → List MethodRequest → Prop
  | nil : Collected res ctx c [] []
  | silent {kind : ResolverKind} {kinds : List ResolverKind} {l : List MethodRequest} :
      answer (res.resolve kind ctx) c = .ok [] → Collected res ctx c kinds l →
      Collected res ctx c (kind :: kinds) l
  | proposing {kind : ResolverKind} {kinds : List ResolverKind} {l requests : List MethodRequest}
      {r : MethodRequest} : answer (res.resolve kind ctx) c = .ok requests →
      res.registry.IsStrongest requests r → Collected res ctx c kinds l →
      Collected res ctx c (kind :: kinds) (r :: l)

variable {res : Resolution} {ctx : ResolutionContext} {c c' : PatternCache} {kind : ResolverKind}
  {kinds : List ResolverKind} {l : List MethodRequest} {e : ServiceError}

theorem not_firstFailure_nil : ¬ res.FirstFailure ctx c [] e := by
  rintro ⟨before, kind, after, hsplit, -⟩
  cases before <;> cases hsplit

theorem firstFailure_cons_of_error (h : answer (res.resolve kind ctx) c = .error e) :
    ∀ e', res.FirstFailure ctx c (kind :: kinds) e' ↔ e = e' := by
  intro e'
  constructor
  · rintro ⟨before, kind', after, hsplit, hbefore, hfails⟩
    cases before with
    | nil =>
        cases hsplit
        rw [h] at hfails
        exact Except.error.inj hfails
    | cons first rest =>
        cases hsplit
        obtain ⟨requests, hrequests⟩ := hbefore kind List.mem_cons_self
        rw [h] at hrequests
        cases hrequests
  · rintro rfl
    exact ⟨[], kind, kinds, rfl, by simp, h⟩

theorem firstFailure_cons_of_ok {requests : List MethodRequest}
    (h : answer (res.resolve kind ctx) c = .ok requests) :
    ∀ e', res.FirstFailure ctx c (kind :: kinds) e' ↔ res.FirstFailure ctx c kinds e' := by
  intro e'
  constructor
  · rintro ⟨before, kind', after, hsplit, hbefore, hfails⟩
    cases before with
    | nil =>
        cases hsplit
        rw [h] at hfails
        cases hfails
    | cons first rest =>
        cases hsplit
        exact ⟨rest, kind', after, rfl, fun k hk => hbefore k (List.mem_cons_of_mem _ hk), hfails⟩
  · rintro ⟨before, kind', after, rfl, hbefore, hfails⟩
    refine ⟨kind :: before, kind', after, rfl, ?_, hfails⟩
    exact List.forall_mem_cons.2 ⟨⟨requests, h⟩, hbefore⟩

theorem collected_nil_iff :
    res.Collected ctx c kinds [] ↔ ∀ kind ∈ kinds, answer (res.resolve kind ctx) c = .ok [] := by
  induction kinds with
  | nil => exact iff_of_true .nil (by simp)
  | cons kind rest ih =>
      rw [List.forall_mem_cons, ← ih]
      constructor
      · intro h
        cases h with
        | silent hsilent hrest => exact ⟨hsilent, hrest⟩
      · rintro ⟨hsilent, hrest⟩
        exact .silent hsilent hrest

end Resolution

namespace Aggregator

variable {g : Aggregator} {ctx : ResolutionContext} {c : PatternCache} {kinds : List ResolverKind}

theorem proposals_eq_error_iff {e : ServiceError} :
    answer (g.proposals ctx kinds) c = .error e ↔ g.resolution.FirstFailure ctx c kinds e := by
  induction kinds with
  | nil => exact iff_of_false (fun h => by cases h) Resolution.not_firstFailure_nil
  | cons kind rest ih =>
      rw [answer_proposals_cons]
      cases hanswer : answer (g.resolution.resolve kind ctx) c with
      | error e' =>
          rw [strongestOf_eq_error_iff.2 hanswer, Resolution.firstFailure_cons_of_error hanswer]
          exact ⟨Except.error.inj, congrArg Except.error⟩
      | ok requests =>
          have hregistered := (Resolution.fit_resolve hanswer).registered
          rw [answer_strongestOf, hanswer, Resolution.firstFailure_cons_of_ok hanswer, ← ih]
          dsimp only
          rw [Registry.strongest_of_registered hregistered]
          cases answer (g.proposals ctx rest) c <;> simp [bind, Except.bind, pure, Except.pure]

theorem proposals_eq_ok_iff {l : List MethodRequest} :
    answer (g.proposals ctx kinds) c = .ok l ↔ g.resolution.Collected ctx c kinds l := by
  induction kinds generalizing l with
  | nil =>
      constructor
      · intro h
        cases h
        exact .nil
      · intro h
        cases h
        rfl
  | cons kind rest ih =>
      rw [proposals_cons_eq_ok]
      constructor
      · rintro ⟨found, more, hfound, hmore, rfl⟩
        have hrest := ih.1 hmore
        cases found with
        | none => exact .silent (strongestOf_eq_none_iff.1 hfound) hrest
        | some r =>
            obtain ⟨requests, hrequests, hstrongest⟩ := strongestOf_eq_some_iff.1 hfound
            exact .proposing hrequests hstrongest hrest
      · intro h
        cases h with
        | silent hsilent hrest =>
            exact ⟨none, l, strongestOf_eq_none_iff.2 hsilent, ih.2 hrest, rfl⟩
        | proposing hrequests hstrongest hrest =>
            exact ⟨some _, _, strongestOf_eq_some_iff.2 ⟨_, hrequests, hstrongest⟩, ih.2 hrest, rfl⟩

theorem resolvePrincipal_eq_error_iff {e : ServiceError} :
    answer (g.resolvePrincipal ctx) c = .error e ↔
      g.resolution.FirstFailure ctx c (g.kinds.filter (·.readsPrincipal)) e := by
  rw [← proposals_eq_error_iff]
  change answer (g.proposals ctx (g.kinds.filter (·.readsPrincipal)) >>= fun found =>
    liftM (g.resolution.registry.strongest found)) c = .error e ↔ _
  rw [answer_bind]
  cases hanswer : answer (g.proposals ctx (g.kinds.filter (·.readsPrincipal))) c with
  | error e' => simp
  | ok l =>
      -- what was proposed can be ranked
      have hregistered := contains_of_mem_proposals hanswer
      simp [Registry.strongest_of_registered hregistered]

/-! ## Aggregating -/

/-- An aggregator does what its resolvers do, each asked by itself: it fails with the first of them
that fails, and otherwise has the strongest request of each in one transaction.  The two caches are
those that the aggregator finds and that a resolver finds. -/
structure Aggregates (g : Aggregator) (ctx : ResolutionContext) (c c' : PatternCache) : Prop where
  fit : ∀ kind ∈ g.kinds, ∀ requests, answer (g.resolution.resolve kind ctx) c' = .ok requests →
    g.resolution.Fit ctx kind.source requests
  fails_iff : ∀ e, answer (g.aggregate ctx) c = .error e ↔
    g.resolution.FirstFailure ctx c' g.kinds e
  never_refuses : NeverRefuses (g.aggregate ctx)
  none_iff : answer (g.aggregate ctx) c = .ok none ↔
    ∀ kind ∈ g.kinds, answer (g.resolution.resolve kind ctx) c' = .ok []
  some_iff : ∀ t, answer (g.aggregate ctx) c = .ok (some t) ↔
    t.target = ctx.request.serviceId ∧ t.primary = ctx.authentication ∧ t.requests ≠ [] ∧
      g.resolution.Collected ctx c' g.kinds t.requests
  principal_fails_iff : ∀ e, answer (g.resolvePrincipal ctx) c = .error e ↔
    g.resolution.FirstFailure ctx c' (g.kinds.filter (·.readsPrincipal)) e
  principal_never_refuses : NeverRefuses (g.resolvePrincipal ctx)
  principal_iff : ∀ found, answer (g.resolvePrincipal ctx) c = .ok found ↔
    g.resolution.Collected ctx c' (g.kinds.filter (·.readsPrincipal)) found.toList

variable {g : Aggregator} {ctx : ResolutionContext} {c : PatternCache}

theorem aggregate_eq_error_iff (hsources : (g.kinds.map (·.source)).Nodup) {e : ServiceError} :
    answer (g.aggregate ctx) c = .error e ↔ answer (g.proposals ctx g.kinds) c = .error e := by
  rw [answer_aggregate hsources]
  cases answer (g.proposals ctx g.kinds) c <;> simp [Except.map]

theorem aggregate_eq_ok_iff (hsources : (g.kinds.map (·.source)).Nodup)
    {found : Option Transaction} : answer (g.aggregate ctx) c = .ok found ↔
      ∃ l, g.resolution.Collected ctx c g.kinds l ∧
        gathered ctx.request.serviceId ctx.authentication l = found := by
  rw [answer_aggregate hsources]
  simp only [← proposals_eq_ok_iff]
  cases answer (g.proposals ctx g.kinds) c <;> simp [Except.map]

end Aggregator

open Aggregator

/-- A service that was built aggregates what its resolvers propose: nothing it gathers is
refused. -/
theorem Service.Built.aggregates {s : Service} (hs : s.Built) (ctx : ResolutionContext)
    (c c' : PatternCache) : s.aggregator.Aggregates ctx c c' := by
  have hsources := hs.sources_nodup
  -- no answer depends on the cache that is found
  have hcache : answer (s.aggregator.aggregate ctx) c = answer (s.aggregator.aggregate ctx) c' :=
    s.aggregator.steady_aggregate ctx c c'
  have hprincipal : answer (s.aggregator.resolvePrincipal ctx) c =
      answer (s.aggregator.resolvePrincipal ctx) c' :=
    s.aggregator.steady_resolvePrincipal ctx c c'
  constructor
  case fit =>
    intro kind _ requests h
    exact Resolution.fit_resolve h
  case fails_iff =>
    intro e
    rw [hcache, aggregate_eq_error_iff hsources, proposals_eq_error_iff]
  case never_refuses =>
    intro c f h
    rw [aggregate_eq_error_iff hsources] at h
    exact neverRefuses_stepwise.proposals _ ctx _ c f h
  case none_iff =>
    rw [hcache, aggregate_eq_ok_iff hsources, ← Resolution.collected_nil_iff]
    simp only [gathered_eq_none_iff, exists_eq_right]
  case some_iff =>
    intro t
    rw [hcache, aggregate_eq_ok_iff hsources]
    simp only [gathered_eq_some_iff]
    constructor
    · rintro ⟨l, hcollected, htarget, hprimary, hne, rfl⟩
      exact ⟨htarget, hprimary, hne, hcollected⟩
    · rintro ⟨htarget, hprimary, hne, hcollected⟩
      exact ⟨t.requests, hcollected, htarget, hprimary, hne, rfl⟩
  case principal_fails_iff =>
    intro e
    rw [hprincipal, resolvePrincipal_eq_error_iff]
  case principal_never_refuses => exact neverRefuses_stepwise.resolvePrincipal _ ctx
  case principal_iff =>
    intro found
    rw [hprincipal, resolvePrincipal_eq_ok_iff hsources, proposals_eq_ok_iff]

end

/-- A login to the application of the small service by way of a record for another service: each
resolver has its request, for the application.  Where the record names a method that nobody
registered, the resolver that reads the record is the first to fail. -/
theorem Service.small_aggregates_for_application :
    let ctx : ResolutionContext := {
      request := { serviceId := "app", authnMethod := some "otp" }
      authentication := some (demandedOf "duo")
      service := some { id := "portal", authnMethod := some "duo" } }
    let stray : ResolutionContext :=
      { ctx with service := some { id := "portal", authnMethod := some "totp" } }
    small.aggregator.resolution.Collected ctx .empty small.aggregator.kinds
        [⟨"otp", "app", .requestParam⟩, ⟨"duo", "app", .serviceDefinition⟩,
          ⟨"duo", "app", .principalAttribute⟩] ∧
      small.aggregator.resolution.FirstFailure stray .empty small.aggregator.kinds
        (.unregisteredMethod "totp") := by
  intro ctx stray
  have hctx := small_built.aggregates ctx .empty .empty
  have hstray := small_built.aggregates stray .empty .empty
  have hall : answer (small.aggregator.aggregate ctx) .empty = .ok (some {
      target := "app"
      primary := some (demandedOf "duo")
      requests := [⟨"otp", "app", .requestParam⟩, ⟨"duo", "app", .serviceDefinition⟩,
        ⟨"duo", "app", .principalAttribute⟩] }) := rfl
  have hfails : answer (small.aggregator.aggregate stray) .empty =
      .error (.unregisteredMethod "totp") := rfl
  obtain ⟨-, -, -, hcollected⟩ := (hctx.some_iff _).1 hall
  exact ⟨hcollected, (hstray.fails_iff _).1 hfails⟩

end StepUp
