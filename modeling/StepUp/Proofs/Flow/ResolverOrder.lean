import StepUp.Proofs.Flow.Deferral
import StepUp.Proofs.Flow.Independence

/-!
# The order of resolvers

The resolvers of a service are asked in the order in which its settings list them, and their
requests stand in this order in the transaction.  This file shows that the order makes no difference
to a login (`Service.resolver_order_immaterial`).

## Strategy

Two settings that list the same resolvers give two services, or none, and the second service is the
first one with its resolvers reordered (`Service.build_withResolvers`).  Two things remain.

* **Asking.**  Every resolver is asked when a login begins, so one that fails makes the login fail
  in any order, perhaps with the error of another resolver.  Where none fails, the two transactions
  hold the same requests (`Aggregator.proposals_perm`).  At most one resolver reads the principal,
  so the primary step of both services asks the same resolver.
* **Deciding.**  Two attempts that differ in the order of their requests (`Attempt.Reordered`) are
  answered alike by every call, with the same error if it fails, and differ in nothing else
  afterwards (`Service.perform_reordered`).  The requests of a transaction come from different
  sources, so the ranking honors one and the same, in whichever order it meets them.
-/

namespace StepUp

open Cached

/-! ## Asking resolvers in another order -/

theorem sharedSource?_of_nodup (before : List ResolverKind) {kinds : List ResolverKind}
    (h : ((before ++ kinds).map (·.source)).Nodup) : sharedSource? before kinds = none := by
  induction kinds generalizing before with
  | nil => rfl
  | cons kind rest ih =>
      have hfresh : before.find? (fun k => k.source == kind.source) = none := by
        rw [List.find?_eq_none]
        intro k hk
        have hdisjoint := List.disjoint_of_nodup_append (List.map_append ▸ h)
        have hne : k.source ≠ kind.source := by
          intro heq
          exact hdisjoint (List.mem_map_of_mem hk) (heq ▸ List.mem_map_of_mem List.mem_cons_self)
        simpa using hne
      rw [sharedSource?, hfresh]
      exact ih _ (by simpa using h)

namespace Aggregator

variable [Regex.Dialect] {g : Aggregator} {ctx : ResolutionContext} {c : PatternCache}
  {kinds kinds' : List ResolverKind} {l : List MethodRequest}

/-- Reordered resolvers propose what they propose, in their order. -/
theorem proposals_perm (h : kinds.Perm kinds') (hl : answer (g.proposals ctx kinds) c = .ok l) :
    ∃ l', answer (g.proposals ctx kinds') c = .ok l' ∧ l.Perm l' := by
  induction h generalizing l with
  | nil => exact ⟨l, hl, .refl l⟩
  | cons kind _ ih =>
      obtain ⟨found, more, hfound, hmore, rfl⟩ := proposals_cons_eq_ok.1 hl
      obtain ⟨more', hmore', hperm⟩ := ih hmore
      exact ⟨found.toList ++ more', proposals_cons_eq_ok.2 ⟨found, more', hfound, hmore', rfl⟩,
        hperm.append_left _⟩
  | swap kind kind' rest =>
      obtain ⟨found', more', hfound', hmore', rfl⟩ := proposals_cons_eq_ok.1 hl
      obtain ⟨found, more, hfound, hmore, rfl⟩ := proposals_cons_eq_ok.1 hmore'
      have hrest : answer (g.proposals ctx (kind' :: rest)) c = .ok (found'.toList ++ more) :=
        proposals_cons_eq_ok.2 ⟨found', more, hfound', hmore, rfl⟩
      refine ⟨found.toList ++ (found'.toList ++ more),
        proposals_cons_eq_ok.2 ⟨found, _, hfound, hrest, rfl⟩, ?_⟩
      rw [← List.append_assoc, ← List.append_assoc]
      exact List.perm_append_comm.append_right more
  | trans _ _ ih₁ ih₂ =>
      obtain ⟨l₁, hl₁, hperm₁⟩ := ih₁ hl
      obtain ⟨l₂, hl₂, hperm₂⟩ := ih₂ hl₁
      exact ⟨l₂, hl₂, hperm₁.trans hperm₂⟩

/-- What a resolver proposes does not depend on which others there are. -/
theorem proposals_withKinds (g : Aggregator) (ctx : ResolutionContext)
    (others kinds : List ResolverKind) :
    { g with kinds := others }.proposals ctx kinds = g.proposals ctx kinds := by
  induction kinds with
  | nil => rfl
  | cons kind rest ih =>
      rw [proposals, ih]
      rfl

omit [Regex.Dialect] in
/-- Of resolvers that share no source at most one reads the principal, so it is the same one in any
order. -/
theorem filter_readsPrincipal_eq (h : kinds.Perm kinds')
    (hsources : (kinds.map (·.source)).Nodup) :
    kinds'.filter (·.readsPrincipal) = kinds.filter (·.readsPrincipal) := by
  have hperm : (kinds'.filter (·.readsPrincipal)).Perm (kinds.filter (·.readsPrincipal)) :=
    h.symm.filter _
  have hshort := length_filter_readsPrincipal_le hsources
  generalize kinds.filter (·.readsPrincipal) = readers at hperm hshort
  match readers, hshort with
  | [], _ => exact hperm.eq_nil
  | [reader], _ => exact List.perm_singleton.1 hperm

theorem resolvePrincipal_withKinds (h : g.kinds.Perm kinds)
    (hsources : (g.kinds.map (·.source)).Nodup) (ctx : ResolutionContext) :
    { g with kinds }.resolvePrincipal ctx = g.resolvePrincipal ctx := by
  have hreaders : kinds.filter (fun k => k.source == .principalAttribute) =
      g.kinds.filter (fun k => k.source == .principalAttribute) :=
    filter_readsPrincipal_eq h hsources
  unfold resolvePrincipal
  rw [proposals_withKinds]
  dsimp only
  rw [hreaders]

end Aggregator

namespace Service

variable [Regex.Dialect] {s : Service} {kinds : List ResolverKind}

/-- The service with other resolvers. -/
def withResolvers (s : Service) (kinds : List ResolverKind) : Service :=
  { s with aggregator := { s.aggregator with kinds } }

/-- Settings that list the same resolvers in another order give the same service but for this
order. -/
theorem build_withResolvers {settings : Settings} {file : Option String}
    {sessions : String → Option Authentication} {services : String → Option RegisteredService}
    {c : PatternCache} (hperm : settings.resolvers.Perm kinds)
    (h : answer (build settings file sessions services) c = .ok s) :
    s.aggregator.kinds = settings.resolvers ∧
      answer (build { settings with resolvers := kinds } file sessions services) c =
        .ok (s.withResolvers kinds) := by
  unfold build at h
  obtain ⟨registry, hregistry, h⟩ := answer_bind_eq_ok.1 h
  obtain ⟨translator, htranslator, h⟩ := answer_bind_eq_ok.1 h
  obtain ⟨g, hg, h⟩ := answer_bind_eq_ok.1 h
  rw [answer_liftM] at hg
  cases h
  unfold Aggregator.build at hg
  split at hg
  next => cases hg
  next hshared =>
      cases hg
      refine ⟨rfl, ?_⟩
      have hnodup : (kinds.map (·.source)).Nodup := by
        rw [← (hperm.map _).nodup_iff]
        simpa using nodup_of_sharedSource? [] hshared (by simp)
      have hnone : sharedSource? [] kinds = none :=
        sharedSource?_of_nodup [] (by simpa using hnodup)
      unfold build
      refine answer_bind_eq_ok.2 ⟨registry, hregistry, ?_⟩
      refine answer_bind_eq_ok.2 ⟨translator, htranslator, ?_⟩
      refine answer_bind_eq_ok.2 ⟨{
        resolution := {
          registry, translator
          principalAttribute := settings.principalAttribute
          defaultMethod := settings.defaultMethod }
        kinds }, ?_, rfl⟩
      rw [answer_liftM]
      unfold Aggregator.build
      rw [hnone]

end Service

/-! ## Attempts whose requests stand in another order -/

/-- Two transactions differ in the order of their requests, if in anything. -/
structure Transaction.Reordered (t u : Transaction) : Prop where
  target : u.target = t.target
  primary : u.primary = t.primary
  requests : t.requests.Perm u.requests

/-- Two attempts differ in the order of the requests of their transactions, if in anything. -/
structure Attempt.Reordered (x y : Attempt) : Prop where
  state : y.state = x.state
  transaction : Option.Rel Transaction.Reordered x.transaction y.transaction
  session : y.session = x.session
  selected : y.selected = x.selected
  chain : y.chain = x.chain

theorem Attempt.Reordered.transaction_cases {x y : Attempt} (h : x.Reordered y) :
    (x.transaction = none ∧ y.transaction = none) ∨
      ∃ t u, x.transaction = some t ∧ y.transaction = some u ∧ t.Reordered u := by
  have hkept := h.transaction
  generalize x.transaction = t, y.transaction = u at hkept ⊢
  cases hkept with
  | none => exact Or.inl ⟨rfl, rfl⟩
  | some htu => exact Or.inr ⟨_, _, rfl, rfl, htu⟩

/-- Two computations fail with the same error, or both succeed with related results. -/
inductive Likewise {ε α : Type} (R : α → α → Prop) : Except ε α → Except ε α → Prop
  | error (e : ε) : Likewise R (.error e) (.error e)
  | ok {a b : α} : R a b → Likewise R (.ok a) (.ok b)

theorem Likewise.fails_or_succeeds {ε α : Type} {R : α → α → Prop} {x y : Except ε α}
    (h : Likewise R x y) :
    (∃ e, x = .error e ∧ y = .error e) ∨ ∃ a b, x = .ok a ∧ y = .ok b ∧ R a b := by
  cases h with
  | error e => exact Or.inl ⟨e, rfl, rfl⟩
  | ok h => exact Or.inr ⟨_, _, rfl, rfl, h⟩

namespace Transaction.Reordered

variable {t u : Transaction}

theorem refl (t : Transaction) : t.Reordered t :=
  ⟨rfl, rfl, .refl _⟩

/-- A transaction accepts or refuses a request in whichever order it holds the others. -/
theorem add (h : t.Reordered u) (r : MethodRequest) :
    Likewise Transaction.Reordered (t.add r) (u.add r) := by
  have hsource : u.containsSource r.source = t.containsSource r.source := h.requests.any_eq.symm
  unfold Transaction.add
  rw [h.target, hsource]
  split
  next => exact .error _
  next =>
      split
      next => exact .error _
      next => exact .ok ⟨rfl, h.primary, h.requests.append_right _⟩

theorem primed (h : t.Reordered u) (a : Authentication) :
    (Service.primed t a).Reordered (Service.primed u a) := by
  unfold Service.primed
  rw [h.primary]
  split
  next => exact h
  next => exact ⟨h.target, rfl, h.requests⟩

/-- A ranking by ranks honors the same request in any order. -/
theorem highest (h : t.Reordered u) {k : Ranking} (ht : t.Sound k.registry) :
    k.strategy.highest u = k.strategy.highest t :=
  ht.strongest_perm h.requests

end Transaction.Reordered

namespace Service

section

variable {s : Service} {x y : Attempt} {q : LoginRequest}

/-! ## What the parts of a call make of them -/

theorem stage_reordered {t u : Option Transaction} (h : Option.Rel Transaction.Reordered t u)
    (r : MethodRequest) : Likewise Transaction.Reordered (stage t r) (stage u r) := by
  cases h with
  | none => exact .ok (.refl _)
  | some h => exact h.add r

theorem installed_reordered (h : x.Reordered y) {t u : Option Transaction}
    (htu : Option.Rel Transaction.Reordered t u) (a : Authentication) :
    (installed x t a).Reordered (installed y u a) where
  state := by
    have hsome : u.isSome = t.isSome := by cases htu <;> rfl
    rw [state_installed, state_installed, h.state, hsome]
  transaction := by
    have hkept := h.transaction
    rw [installed_transaction, installed_transaction]
    generalize x.transaction = t', y.transaction = u' at hkept ⊢
    cases htu with
    | some htu => exact .some (htu.primed a)
    | none =>
        cases hkept with
        | none => exact .none
        | some hkept => exact .some (hkept.primed a)
  session := by rw [installed_session, installed_session, h.session]
  selected := by rw [installed_selected, installed_selected, h.selected]
  chain := by rw [installed_chain, installed_chain, h.chain]

theorem chainPrimary_reordered (h : x.Reordered y) (found : Option MethodRequest)
    (a : Authentication) (credential : Option Credential) :
    Likewise Attempt.Reordered (chainPrimary x found a credential)
      (chainPrimary y found a credential) := by
  have hstaged : Likewise (Option.Rel Transaction.Reordered)
      (found.mapM (stage x.transaction)) (found.mapM (stage y.transaction)) := by
    cases found with
    | none => exact .ok .none
    | some r =>
        rw [Option.mapM_some, Option.mapM_some]
        rcases (stage_reordered h.transaction r).fails_or_succeeds with
          ⟨e, ht, hu⟩ | ⟨t, u, ht, hu, htu⟩
        · rw [ht, hu]
          exact .error e
        · rw [ht, hu]
          exact .ok (.some htu)
  unfold chainPrimary
  rw [h.chain]
  rcases hstaged.fails_or_succeeds with ⟨e, ht, hu⟩ | ⟨t, u, ht, hu, htu⟩
  · rw [ht, hu]
    exact .error e
  · rw [ht, hu]
    dsimp only
    split
    next e _ => exact .error e
    next chain _ =>
        have hchained : ({ x with chain } : Attempt).Reordered { y with chain } :=
          { h with chain := rfl }
        exact .ok (installed_reordered hchained htu a)

variable [Regex.Dialect] {c : PatternCache}

/-- Both attempts get the same request selected, if any. -/
theorem selectStrongest_reordered (hs : s.Built)
    (hx : ∀ t, x.transaction = some t → t.Sound s.registry) (h : x.Reordered y) :
    ∃ x' y', s.selectStrongest x = .ok x' ∧ s.selectStrongest y = .ok y' ∧ x'.Reordered y' := by
  cases hselected : x.selected with
  | some r =>
      have hselected' : y.selected = some r := h.selected.trans hselected
      exact ⟨x, y, selectStrongest_of_selected hselected, selectStrongest_of_selected hselected', h⟩
  | none =>
      have hselected' : y.selected = none := h.selected.trans hselected
      rcases h.transaction_cases with ⟨ht, hu⟩ | ⟨t, u, ht, hu, htu⟩
      · exact ⟨x, y, selectStrongest_of_no_transaction ht, selectStrongest_of_no_transaction hu, h⟩
      · obtain ⟨r, hr, -⟩ := (hx t ht).exists_strongest
        have hhigh : s.strategy.highest t = .ok (some r) := by
          rw [hs.strategy_eq]
          exact hr
        have hhigh' : s.strategy.highest u = .ok (some r) := by
          rw [hs.strategy_eq] at hhigh ⊢
          exact (htu.highest (hx t ht)).trans hhigh
        exact ⟨x.select r, y.select r, selectStrongest_of_highest hselected ht hhigh,
          selectStrongest_of_highest hselected' hu hhigh',
          { h with state := rfl, selected := rfl }⟩

omit [Regex.Dialect] in
theorem outcome_reordered (s : Service) (h : x.Reordered y) : s.outcome y = s.outcome x := by
  unfold outcome
  rw [h.selected, h.chain]

theorem decide_reordered (hs : s.Built)
    (hx : ∀ t, x.transaction = some t → t.Sound s.registry) (h : x.Reordered y) (q : LoginRequest) :
    s.strategy.decide (escalationInput y q) = s.strategy.decide (escalationInput x q) := by
  unfold Strategy.decide escalationInput
  dsimp only
  rw [h.session]
  rcases h.transaction_cases with ⟨ht, hu⟩ | ⟨t, u, ht, hu, htu⟩
  · rw [ht, hu]
  · have hhigh : s.strategy.highest u = s.strategy.highest t := by
      rw [hs.strategy_eq]
      exact htu.highest (hx t ht)
    rw [ht, hu]
    dsimp only
    rw [hhigh]

/-! ## Every call answers alike -/

theorem evaluate_reordered (hs : s.Built) (hx : x.Settled s.registry) (h : x.Reordered y)
    (q : LoginRequest) :
    (s.evaluate y q).1 = (s.evaluate x q).1 ∧ (s.evaluate x q).2.Reordered (s.evaluate y q).2 := by
  have hsame := decide_reordered hs hx.sound h q
  cases hdecide : s.strategy.decide (escalationInput x q) with
  | error e =>
      rw [evaluate_of_error hdecide, evaluate_of_error (hsame.trans hdecide)]
      exact ⟨rfl, h⟩
  | ok decision =>
      cases decision with
      | continueNormally =>
          rw [evaluate_of_continue hdecide, evaluate_of_continue (hsame.trans hdecide)]
          exact ⟨rfl, { h with state := rfl }⟩
      | requireMethod r =>
          have hseeded : seededChain y = seededChain x := by
            unfold seededChain
            rw [h.session, h.chain]
          rw [evaluate_of_require hdecide, evaluate_of_require (hsame.trans hdecide)]
          exact ⟨rfl, { h with state := rfl, selected := rfl, chain := hseeded }⟩

theorem completePrimary_reordered (hs : s.Built) (hx : x.Settled s.registry) (h : x.Reordered y)
    (q : LoginRequest) (a : Authentication) (credential : Option Credential) (c c' : PatternCache) :
    (s.completePrimary y q a credential c').1.1 = (s.completePrimary x q a credential c).1.1 ∧
      (s.completePrimary x q a credential c).1.2.Reordered
        (s.completePrimary y q a credential c').1.2 := by
  have hdemands : answer (s.principalDemand y q a) c' = answer (s.principalDemand x q a) c := by
    rw [answer_principalDemand, answer_principalDemand, h.selected,
      s.aggregator.steady_resolvePrincipal _ c' c]
  rw [completePrimary_eq, completePrimary_eq, hdemands]
  cases hdemand : answer (s.principalDemand x q a) c with
  | error e => exact ⟨rfl, h⟩
  | ok found =>
      dsimp only
      unfold primaryStep
      rcases (chainPrimary_reordered h found a credential).fails_or_succeeds with
        ⟨e, hchained, hchained'⟩ | ⟨chained, chained', hchained, hchained', hboth⟩
      · rw [hchained, hchained']
        exact ⟨rfl, h⟩
      · have hsound : ∀ t, chained.transaction = some t → t.Sound s.registry := by
          obtain ⟨z, hz, hsettled⟩ := settled_of_chainPrimary hs hx
            (fun r hr => principalDemand_eq_some (hr ▸ hdemand)) hchained
          rw [← (frame_of_selectStrongest hz).1]
          exact hsettled.sound
        obtain ⟨z, z', hz, hz', hsettled⟩ := selectStrongest_reordered hs hsound hboth
        rw [hchained, hchained']
        dsimp only
        rw [settle_of_selectStrongest hz, settle_of_selectStrongest hz']
        exact ⟨outcome_reordered s hsettled, hsettled⟩

omit [Regex.Dialect] in
theorem completeMethod_reordered (s : Service) (h : x.Reordered y) (a : Authentication)
    (credential : Option Credential) :
    (s.completeMethod y a credential).1 = (s.completeMethod x a credential).1 ∧
      (s.completeMethod x a credential).2.Reordered (s.completeMethod y a credential).2 := by
  cases hselected : x.selected with
  | none =>
      rw [completeMethod_of_not_selected hselected,
        completeMethod_of_not_selected (h.selected.trans hselected)]
      exact ⟨rfl, h⟩
  | some r =>
      rw [completeMethod_of_selected hselected,
        completeMethod_of_selected (h.selected.trans hselected), h.chain]
      split
      next => exact ⟨rfl, h⟩
      next chain _ =>
          have hchained : ({ x with chain } : Attempt).Reordered { y with chain } :=
            { h with chain := rfl }
          exact ⟨outcome_reordered s hchained, hchained⟩

/-- A call answers two attempts alike that differ in the order of their requests, and they differ in
nothing else afterwards. -/
theorem perform_reordered (hs : s.Built) (hx : x.Settled s.registry) (h : x.Reordered y)
    (call : Call) (c c' : PatternCache) :
    (s.perform y call c').1.1 = (s.perform x call c).1.1 ∧
      (s.perform x call c).1.2.Reordered (s.perform y call c').1.2 := by
  cases call with
  | evaluate q =>
      obtain ⟨hanswer, hleft⟩ := evaluate_reordered hs hx h q
      exact ⟨congrArg Reply.decided hanswer, hleft⟩
  | completePrimary q a credential =>
      obtain ⟨hanswer, hleft⟩ := completePrimary_reordered hs hx h q a credential c c'
      exact ⟨congrArg Reply.advanced hanswer, hleft⟩
  | completeMethod a credential =>
      obtain ⟨hanswer, hleft⟩ := completeMethod_reordered s h a credential
      exact ⟨congrArg Reply.advanced hanswer, hleft⟩

/-! ## Calls in a row -/

/-- What calls in a row answer, and the attempt that they leave. -/
def performAll (s : Service) (x : Attempt) : List Call → StateM PatternCache (List Reply × Attempt)
  | [] => return ([], x)
  | call :: rest => do
    let (reply, y) ← s.perform x call
    let (replies, z) ← s.performAll y rest
    return (reply :: replies, z)

theorem performAll_cons (s : Service) (x : Attempt) (call : Call) (rest : List Call)
    (c : PatternCache) :
    (s.performAll x (call :: rest) c).1 =
      ((s.perform x call c).1.1 ::
          (s.performAll (s.perform x call c).1.2 rest (s.perform x call c).2).1.1,
        (s.performAll (s.perform x call c).1.2 rest (s.perform x call c).2).1.2) :=
  rfl

theorem performAll_reordered (hs : s.Built) (hx : x.Settled s.registry) (h : x.Reordered y)
    (calls : List Call) (c c' : PatternCache) :
    (s.performAll y calls c').1.1 = (s.performAll x calls c).1.1 ∧
      (s.performAll x calls c).1.2.Reordered (s.performAll y calls c').1.2 := by
  induction calls generalizing x y c c' with
  | nil => exact ⟨rfl, h⟩
  | cons call rest ih =>
      obtain ⟨hreply, hleft⟩ := perform_reordered hs hx h call c c'
      have hsettled : (s.perform x call c).1.2.Settled s.registry := by
        rw [perform_attempt]
        exact settled_after hs hx call c
      obtain ⟨hreplies, hlast⟩ :=
        ih hsettled hleft (s.perform x call c).2 (s.perform y call c').2
      rw [performAll_cons, performAll_cons]
      exact ⟨by rw [hreply, hreplies], hlast⟩

/-! ## Two services -/

variable {kinds : List ResolverKind}

theorem completePrimary_withResolvers (hperm : s.aggregator.kinds.Perm kinds)
    (hsources : (s.aggregator.kinds.map (·.source)).Nodup) (x : Attempt) (q : LoginRequest)
    (a : Authentication) (credential : Option Credential) :
    (s.withResolvers kinds).completePrimary x q a credential =
      s.completePrimary x q a credential := by
  have hdemand : (s.withResolvers kinds).principalDemand x q a = s.principalDemand x q a := by
    have hread := Aggregator.resolvePrincipal_withKinds hperm hsources (s.context q (some a))
    unfold principalDemand
    split
    next => rfl
    next => exact hread
  unfold completePrimary
  rw [hdemand]
  rfl

/-- A service performs calls as it does with its resolvers reordered. -/
theorem performAll_withResolvers (hperm : s.aggregator.kinds.Perm kinds)
    (hsources : (s.aggregator.kinds.map (·.source)).Nodup) (x : Attempt) (calls : List Call) :
    (s.withResolvers kinds).performAll x calls = s.performAll x calls := by
  have hperform : ∀ x call, (s.withResolvers kinds).perform x call = s.perform x call := by
    intro x call
    cases call with
    | evaluate q => rfl
    | completeMethod a credential => rfl
    | completePrimary q a credential =>
        dsimp only [perform]
        rw [completePrimary_withResolvers hperm hsources]
  induction calls generalizing x with
  | nil => rfl
  | cons call rest ih =>
      unfold performAll
      rw [hperform]
      simp only [ih]

/-- A login that begins with one order of the resolvers begins with any other, with the same
requests. -/
theorem begin_withResolvers (hs : s.Built) (hs' : (s.withResolvers kinds).Built)
    (hperm : s.aggregator.kinds.Perm kinds) (hbegin : answer (s.begin q) c = .ok x)
    (c' : PatternCache) :
    ∃ y, answer ((s.withResolvers kinds).begin q) c' = .ok y ∧ x.Reordered y := by
  obtain ⟨l, hl⟩ := proposals_of_begin hs (Eq.refl (s.sessionOf q)) hbegin
  obtain ⟨l', hl', hrequests⟩ := Aggregator.proposals_perm hperm hl
  have hother : answer ((s.withResolvers kinds).aggregator.proposals
      ((s.withResolvers kinds).context q (s.sessionOf q)) kinds) .empty = .ok l' := by
    rw [← hl']
    exact congrArg (answer · .empty) (Aggregator.proposals_withKinds _ _ _ _)
  have hx : x = .start (Aggregator.gathered q.serviceId (s.sessionOf q) l) (s.sessionOf q) := by
    have hsame := begin_of_proposals hs (Eq.refl (s.sessionOf q)) hl c
    rw [hbegin] at hsame
    exact Except.ok.inj hsame
  refine ⟨_, begin_of_proposals hs' (Eq.refl (s.sessionOf q)) hother c', ?_⟩
  rw [hx]
  rcases gathered_of_perm hrequests q.serviceId (s.sessionOf q) with ⟨ht, hu⟩ | ⟨ht, hu⟩
  · rw [ht, hu]
    exact ⟨rfl, .none, rfl, rfl, rfl⟩
  · rw [ht, hu]
    exact ⟨rfl, .some ⟨rfl, rfl, hrequests⟩, rfl, rfl, rfl⟩

theorem begin_fails_withResolvers (hs : s.Built) (hs' : (s.withResolvers kinds).Built)
    (hperm : s.aggregator.kinds.Perm kinds) (q : LoginRequest) (c c' : PatternCache) :
    (∃ e, answer (s.begin q) c = .error e) ↔
      ∃ e, answer ((s.withResolvers kinds).begin q) c' = .error e := by
  constructor
  · rintro ⟨e, he⟩
    cases hbegin : answer ((s.withResolvers kinds).begin q) c' with
    | error e' => exact ⟨e', rfl⟩
    | ok y =>
        -- the first service is the second with its resolvers put back
        have hback : (s.withResolvers kinds).withResolvers s.aggregator.kinds = s := rfl
        have hagain : ((s.withResolvers kinds).withResolvers s.aggregator.kinds).Built := hs
        obtain ⟨x, hx, -⟩ := begin_withResolvers hs' hagain hperm.symm hbegin c
        rw [hback, he] at hx
        cases hx
  · rintro ⟨e, he⟩
    cases hbegin : answer (s.begin q) c with
    | error e' => exact ⟨e', rfl⟩
    | ok x =>
        obtain ⟨y, hy, -⟩ := begin_withResolvers hs hs' hperm hbegin c'
        rw [he] at hy
        cases hy

/-- Of two settings that list the same resolvers, either both give a service or none does.  A login
fails to begin at both services or at none.  If it begins, the two attempts hold the same requests,
and calls in a row, evaluations and primary steps among them, are answered alike, errors included,
and leave attempts that differ in the order of these requests only. -/
theorem resolver_order_immaterial {settings : Settings} (hperm : settings.resolvers.Perm kinds)
    (file : Option String) (sessions : String → Option Authentication)
    (services : String → Option RegisteredService) :
    ((∃ s, answer (build settings file sessions services) .empty = .ok s) ↔
      ∃ s', answer (build { settings with resolvers := kinds } file sessions services) .empty =
        .ok s') ∧
    ∀ s s', answer (build settings file sessions services) .empty = .ok s →
      answer (build { settings with resolvers := kinds } file sessions services) .empty = .ok s' →
      ∀ q c c', ((∃ e, answer (s.begin q) c = .error e) ↔ ∃ e, answer (s'.begin q) c' = .error e) ∧
        ∀ x y, answer (s.begin q) c = .ok x → answer (s'.begin q) c' = .ok y →
          x.Reordered y ∧ ∀ calls c₁ c₂,
            (s'.performAll y calls c₂).1.1 = (s.performAll x calls c₁).1.1 ∧
            (s.performAll x calls c₁).1.2.Reordered (s'.performAll y calls c₂).1.2 := by
  refine ⟨⟨fun ⟨s, hs⟩ => ⟨_, (build_withResolvers hperm hs).2⟩, fun ⟨s', hs'⟩ => ?_⟩, ?_⟩
  · have hback : ({ settings with resolvers := kinds } : Settings).resolvers.Perm
        settings.resolvers := hperm.symm
    exact ⟨_, (build_withResolvers hback hs').2⟩
  intro s s' hbuild hbuild' q c c'
  obtain ⟨hkinds, hsame⟩ := build_withResolvers hperm hbuild
  have heq : s' = s.withResolvers kinds := by
    rw [hsame] at hbuild'
    exact (Except.ok.inj hbuild').symm
  subst heq
  have hs : s.Built := ⟨_, _, _, _, _, hbuild⟩
  have hs' : (s.withResolvers kinds).Built := ⟨_, _, _, _, _, hbuild'⟩
  have hreordered : s.aggregator.kinds.Perm kinds := hkinds ▸ hperm
  refine ⟨begin_fails_withResolvers hs hs' hreordered q c c', ?_⟩
  intro x y hx hy
  obtain ⟨y', hy', hboth⟩ := begin_withResolvers hs hs' hreordered hx c'
  rw [hy] at hy'
  cases hy'
  refine ⟨hboth, fun calls c₁ c₂ => ?_⟩
  rw [performAll_withResolvers hreordered hs.sources_nodup]
  exact performAll_reordered hs (settled_begin hx) hboth calls c₁ c₂

end

/-- The resolvers of the small service, the other way round. -/
def reversedResolvers : List ResolverKind :=
  [.roleRule, .serviceDefinition, .requestParameter]

/-- A login that names the weaker of two methods, for the application that declares the stronger
one: the requests stand in the order of the resolvers, and both services require the stronger
method. -/
theorem resolver_order_immaterial_to_app :
    smallSettings.resolvers.Perm reversedResolvers ∧
      ∃ x y, answer (small.begin { serviceId := "app", authnMethod := some "otp" }) .empty = .ok x ∧
        answer ((small.withResolvers reversedResolvers).begin
          { serviceId := "app", authnMethod := some "otp" }) .empty = .ok y ∧
        x.transaction.map (·.requests.map (·.method)) = some ["otp", "duo"] ∧
        y.transaction.map (·.requests.map (·.method)) = some ["duo", "otp"] ∧ x.Reordered y ∧
        ((small.withResolvers reversedResolvers).performAll y
            [.completePrimary smallRequest (demandedOf "otp") none] .empty).1.1 =
          [.advanced (.ok (.requireMethod ⟨"duo", "app", .serviceDefinition⟩))] := by
  have hperm : smallSettings.resolvers.Perm reversedResolvers := by decide
  have hbuild : answer (build smallSettings none (fun _ => none)
      (Directory.ofList smallSettings.services).find?) .empty = .ok small := rfl
  have hbuild' : answer (build { smallSettings with resolvers := reversedResolvers } none
      (fun _ => none) (Directory.ofList smallSettings.services).find?) .empty =
      .ok (small.withResolvers reversedResolvers) := rfl
  obtain ⟨-, hservices⟩ := resolver_order_immaterial hperm none (fun _ => none)
    (Directory.ofList smallSettings.services).find?
  obtain ⟨-, hattempts⟩ := hservices _ _ hbuild hbuild'
    { serviceId := "app", authnMethod := some "otp" } .empty .empty
  obtain ⟨hboth, hcalls⟩ := hattempts _ _ rfl rfl
  refine ⟨hperm, _, _, rfl, rfl, rfl, rfl, hboth, ?_⟩
  exact (hcalls [.completePrimary smallRequest (demandedOf "otp") none] .empty .empty).1.trans rfl

end Service

end StepUp
