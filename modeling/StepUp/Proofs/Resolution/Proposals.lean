import StepUp.Proofs.Resolution.Gathering

/-!
# What resolvers propose

Every request of a resolver is for a registered method, has the source of the resolver and targets
the service of the login (`Resolution.Fit`).  No two resolvers of a service share a source, so the
requests of its resolvers always fit into one transaction, and gathering fails only where a resolver
does: the transaction of a service holds the proposals of its resolvers in their order
(`Aggregator.answer_aggregate`).

Only the resolvers that read the principal look at the authentication.  Without one they propose
nothing, and the others propose what they propose with one.  So the proposals of all resolvers are,
up to their order, those that are made without an authentication and those of the resolvers that
read the principal (`Aggregator.proposals_perm_filter`); of the latter there is at most one.
-/

namespace StepUp

open Cached

/-! ## The requests of a resolver -/

namespace Resolution

variable {res : Resolution} {ctx : ResolutionContext} {requests : List MethodRequest}
  {source : MethodSource}

/-- The requests have a source and target the service of the login. -/
def From (ctx : ResolutionContext) (source : MethodSource) (requests : List MethodRequest) : Prop :=
  ∀ r ∈ requests, r.source = source ∧ r.target = ctx.request.serviceId

/-- The requests are for registered methods, have a source and target the service of the login. -/
structure Fit (res : Resolution) (ctx : ResolutionContext) (source : MethodSource)
    (requests : List MethodRequest) : Prop where
  registered : ∀ r ∈ requests, res.registry.contains r.method = true
  origin : From ctx source requests

theorem fit_nil : res.Fit ctx source [] where
  registered := by simp
  origin := by simp [From]

theorem fit_cons {method : String} (hmethod : res.registry.contains method = true)
    (h : res.Fit ctx source requests) :
    res.Fit ctx source ({ method, target := ctx.request.serviceId, source } :: requests) where
  registered := List.forall_mem_cons.2 ⟨hmethod, h.registered⟩
  origin := List.forall_mem_cons.2 ⟨⟨rfl, rfl⟩, h.origin⟩

/-! ### Resolvers that demand one method -/

/-- There is one request at most, for a registered method. -/
inductive Sole (res : Resolution) (ctx : ResolutionContext) (source : MethodSource) :
    List MethodRequest → Prop
  | none : Sole res ctx source []
  | one {method : String} : res.registry.contains method = true →
      Sole res ctx source [{ method, target := ctx.request.serviceId, source }]

theorem Sole.fit (h : res.Sole ctx source requests) : res.Fit ctx source requests := by
  cases h with
  | none => exact fit_nil
  | one hmethod => exact fit_cons hmethod fit_nil

theorem Sole.length_le (h : res.Sole ctx source requests) : requests.length ≤ 1 := by
  cases h with
  | none => exact Nat.zero_le 1
  | one => exact Nat.le_refl 1

variable [Regex.Dialect] {c : PatternCache}

theorem sole_of_pure (h : answer (pure [] : Cached (List MethodRequest)) c = .ok requests) :
    res.Sole ctx source requests := by
  cases h
  exact .none

/-- A method that is found, if any, has to be registered. -/
theorem sole_of_found {method : Option String}
    (h : answer (match method with
      | none => pure []
      | some method => res.requireMethod ctx source method) c = .ok requests) :
    res.Sole ctx source requests := by
  cases method with
  | none => exact sole_of_pure h
  | some method =>
      obtain ⟨m, hm, h⟩ := answer_bind_eq_ok.1 h
      cases h
      rw [answer_liftM] at hm
      exact .one (Registry.contains_of_require hm)

theorem sole_requestParameter (h : answer (res.requestParameter ctx) c = .ok requests) :
    res.Sole ctx .requestParam requests := by
  unfold requestParameter at h
  split at h
  · exact sole_of_pure h
  · obtain ⟨method, -, h⟩ := answer_bind_eq_ok.1 h
    exact sole_of_found h

theorem sole_serviceDefinition (h : answer (res.serviceDefinition ctx) c = .ok requests) :
    res.Sole ctx .serviceDefinition requests := by
  unfold serviceDefinition at h
  split at h
  · exact sole_of_pure h
  · split at h
    · exact sole_of_pure h
    · split at h
      · obtain ⟨method, -, h⟩ := answer_bind_eq_ok.1 h
        exact sole_of_found h
      · obtain ⟨method, -, h⟩ := answer_bind_eq_ok.1 h
        exact sole_of_found h

/-! ### Resolvers that read the principal -/

theorem fit_attributeRequests {values : List String}
    (h : answer (res.attributeRequests ctx values) c = .ok requests) :
    res.Fit ctx .principalAttribute requests := by
  induction values generalizing c requests with
  | nil => exact (sole_of_pure h).fit
  | cons value rest ih =>
      rw [attributeRequests] at h
      obtain ⟨method, -, h⟩ := answer_bind_eq_ok.1 h
      obtain ⟨more, hmore, h⟩ := answer_bind_eq_ok.1 h
      have hrest := ih hmore
      cases method with
      | none =>
          cases h
          exact hrest
      | some method =>
          dsimp only at h
          split at h
          next hmethod =>
              cases h
              exact fit_cons hmethod hrest
          next =>
              cases h
              exact hrest

theorem fit_principalAttributeRequests
    (h : answer (res.principalAttributeRequests ctx) c = .ok requests) :
    res.Fit ctx .principalAttribute requests := by
  unfold principalAttributeRequests at h
  split at h
  · exact (sole_of_pure h).fit
  · exact fit_attributeRequests h

theorem fit_roleRequests (h : answer (res.roleRequests ctx) c = .ok requests) :
    res.Fit ctx .principalAttribute requests := by
  unfold roleRequests at h
  split at h
  · exact (sole_of_pure h).fit
  · obtain ⟨hits, -, h⟩ := answer_bind_eq_ok.1 h
    rw [answer_pure] at h
    cases h
    split
    next hmethod =>
        clear h
        induction hits with
        | nil => exact fit_nil
        | cons hit rest ih => exact fit_cons hmethod ih
    next => exact fit_nil

/-- Every request of a resolver is for a registered method, has the source of the resolver and
targets the service of the login. -/
theorem fit_resolve {kind : ResolverKind} (h : answer (res.resolve kind ctx) c = .ok requests) :
    res.Fit ctx kind.source requests := by
  cases kind with
  | requestParameter => exact (sole_requestParameter h).fit
  | serviceDefinition => exact (sole_serviceDefinition h).fit
  | principalAttribute => exact fit_principalAttributeRequests h
  | roleRule =>
      obtain ⟨found, hfound, h⟩ := answer_bind_eq_ok.1 h
      cases found with
      | nil => exact fit_principalAttributeRequests h
      | cons r rest =>
          cases h
          exact fit_roleRequests hfound

end Resolution

/-- The context of a login before anybody is authenticated. -/
def ResolutionContext.anonymous (ctx : ResolutionContext) : ResolutionContext :=
  { ctx with authentication := none }

/-- Whether a resolver reads the principal. -/
def ResolverKind.readsPrincipal (kind : ResolverKind) : Bool :=
  kind.source == .principalAttribute

/-! ## Proposals -/

namespace Aggregator

variable {g : Aggregator} {ctx : ResolutionContext} {kinds : List ResolverKind}
  {l : List MethodRequest}

section Proposals

variable [Regex.Dialect] {c : PatternCache}

theorem from_strongestOf {kind : ResolverKind} {r : MethodRequest}
    (h : answer (g.strongestOf ctx kind) c = .ok (some r)) :
    r.source = kind.source ∧ r.target = ctx.request.serviceId := by
  obtain ⟨found, hfound, hr⟩ := answer_bind_eq_ok.1 h
  rw [answer_liftM] at hr
  exact (Resolution.fit_resolve hfound).origin r (Registry.isStrongest_of_strongest hr).2.mem

theorem answer_strongestOf_anonymous (kind : ResolverKind) (c : PatternCache) :
    answer (g.strongestOf ctx.anonymous kind) c =
      if kind.readsPrincipal then .ok none else answer (g.strongestOf ctx kind) c := by
  cases kind <;> rfl

/-- A resolver is asked, and then the others. -/
theorem answer_proposals_cons (kind : ResolverKind) (kinds : List ResolverKind) :
    answer (g.proposals ctx (kind :: kinds)) c = (do
      let found ← answer (g.strongestOf ctx kind) c
      let more ← answer (g.proposals ctx kinds) c
      return found.toList ++ more) := by
  rw [proposals, answer_bind]
  cases answer (g.strongestOf ctx kind) c with
  | error e => rfl
  | ok found =>
      dsimp only
      rw [answer_bind, g.steady_proposals ctx kinds _ c]
      cases answer (g.proposals ctx kinds) c <;> rfl

theorem proposals_cons_eq_ok {kind : ResolverKind} :
    answer (g.proposals ctx (kind :: kinds)) c = .ok l ↔
      ∃ found more, answer (g.strongestOf ctx kind) c = .ok found ∧
        answer (g.proposals ctx kinds) c = .ok more ∧ l = found.toList ++ more := by
  rw [answer_proposals_cons]
  cases answer (g.strongestOf ctx kind) c with
  | error e => simp [bind, Except.bind]
  | ok found =>
      cases answer (g.proposals ctx kinds) c with
      | error e => simp [bind, Except.bind]
      | ok more => simp [bind, Except.bind, pure, Except.pure, eq_comm]

theorem length_proposals_le (h : answer (g.proposals ctx kinds) c = .ok l) :
    l.length ≤ kinds.length := by
  induction kinds generalizing l with
  | nil =>
      cases h
      rfl
  | cons kind rest ih =>
      obtain ⟨found, more, -, hmore, rfl⟩ := proposals_cons_eq_ok.1 h
      have hrest := ih hmore
      have hone : found.toList.length ≤ 1 := by cases found <;> simp
      rw [List.length_append, List.length_cons]
      omega

/-- What is proposed is what the resolvers forward. -/
theorem mem_proposals_iff {p : MethodRequest} (h : answer (g.proposals ctx kinds) c = .ok l) :
    p ∈ l ↔ ∃ kind ∈ kinds, answer (g.strongestOf ctx kind) c = .ok (some p) := by
  induction kinds generalizing l with
  | nil =>
      cases h
      simp
  | cons first rest ih =>
      obtain ⟨found, more, hfound, hmore, rfl⟩ := proposals_cons_eq_ok.1 h
      rw [List.mem_append, Option.mem_toList, ih hmore, List.exists_mem_cons_iff, hfound]
      simp

theorem contains_of_mem_proposals (h : answer (g.proposals ctx kinds) c = .ok l) :
    ∀ r ∈ l, g.resolution.registry.contains r.method = true := by
  intro r hr
  obtain ⟨kind, -, hfound⟩ := (mem_proposals_iff h).1 hr
  exact contains_of_strongestOf hfound

theorem from_mem_proposals (h : answer (g.proposals ctx kinds) c = .ok l) :
    ∀ r ∈ l, (∃ kind ∈ kinds, r.source = kind.source) ∧ r.target = ctx.request.serviceId := by
  intro r hr
  obtain ⟨kind, hkind, hfound⟩ := (mem_proposals_iff h).1 hr
  obtain ⟨hsource, htarget⟩ := from_strongestOf hfound
  exact ⟨⟨kind, hkind, hsource⟩, htarget⟩

/-- What the principal demands comes from it, for the service of the login. -/
theorem from_resolvePrincipal {r : MethodRequest}
    (h : answer (g.resolvePrincipal ctx) c = .ok (some r)) :
    r.source = .principalAttribute ∧ r.target = ctx.request.serviceId := by
  obtain ⟨found, hfound, hr⟩ := answer_bind_eq_ok.1 h
  rw [answer_liftM] at hr
  have hmem := (Registry.isStrongest_of_strongest hr).2.mem
  obtain ⟨⟨kind, hkind, hsource⟩, htarget⟩ := from_mem_proposals hfound r hmem
  have hreads : kind.source = .principalAttribute := by simpa using (List.mem_filter.1 hkind).2
  exact ⟨hsource.trans hreads, htarget⟩

/-- Without an authentication the resolvers that read the principal may as well not be asked. -/
theorem answer_proposals_anonymous (kinds : List ResolverKind) (c : PatternCache) :
    answer (g.proposals ctx.anonymous kinds) c =
      answer (g.proposals ctx (kinds.filter fun k => !k.readsPrincipal)) c := by
  induction kinds with
  | nil => rfl
  | cons kind rest ih =>
      rw [answer_proposals_cons, answer_strongestOf_anonymous, ih]
      cases hreads : kind.readsPrincipal with
      | true =>
          rw [List.filter_cons_of_neg (by simp [hreads])]
          cases answer (g.proposals ctx (rest.filter fun k => !k.readsPrincipal)) c <;> rfl
      | false =>
          rw [List.filter_cons_of_pos (by simp [hreads]), answer_proposals_cons]
          rfl

/-- The resolvers that pass a test and those that do not propose together what all propose. -/
theorem proposals_perm_filter (p : ResolverKind → Bool)
    (h : answer (g.proposals ctx kinds) c = .ok l) :
    ∃ l₁ l₂, answer (g.proposals ctx (kinds.filter p)) c = .ok l₁ ∧
      answer (g.proposals ctx (kinds.filter fun k => !p k)) c = .ok l₂ ∧ l.Perm (l₁ ++ l₂) := by
  induction kinds generalizing l with
  | nil =>
      cases h
      exact ⟨[], [], rfl, rfl, .refl _⟩
  | cons kind rest ih =>
      obtain ⟨found, more, hfound, hmore, rfl⟩ := proposals_cons_eq_ok.1 h
      obtain ⟨l₁, l₂, h₁, h₂, hperm⟩ := ih hmore
      cases hp : p kind with
      | true =>
          rw [List.filter_cons_of_pos hp, List.filter_cons_of_neg (by simp [hp])]
          refine ⟨found.toList ++ l₁, l₂, ?_, h₂, ?_⟩
          · exact proposals_cons_eq_ok.2 ⟨found, l₁, hfound, h₁, rfl⟩
          · rw [List.append_assoc]
            exact hperm.append_left _
      | false =>
          rw [List.filter_cons_of_neg (by simp [hp]), List.filter_cons_of_pos (by simp [hp])]
          refine ⟨l₁, found.toList ++ l₂, h₁, ?_, ?_⟩
          · exact proposals_cons_eq_ok.2 ⟨found, l₂, hfound, h₂, rfl⟩
          · have hcomm : (found.toList ++ (l₁ ++ l₂)).Perm (l₁ ++ (found.toList ++ l₂)) := by
              rw [← List.append_assoc, ← List.append_assoc]
              exact List.perm_append_comm.append_right _
            exact (hperm.append_left _).trans hcomm

theorem exists_proposals_of_filter (p : ResolverKind → Bool) {l₁ l₂ : List MethodRequest}
    (h₁ : answer (g.proposals ctx (kinds.filter p)) c = .ok l₁)
    (h₂ : answer (g.proposals ctx (kinds.filter fun k => !p k)) c = .ok l₂) :
    ∃ l, answer (g.proposals ctx kinds) c = .ok l := by
  induction kinds generalizing l₁ l₂ with
  | nil => exact ⟨[], rfl⟩
  | cons kind rest ih =>
      cases hp : p kind with
      | true =>
          rw [List.filter_cons_of_pos hp] at h₁
          rw [List.filter_cons_of_neg (by simp [hp])] at h₂
          obtain ⟨found, more, hfound, hmore, -⟩ := proposals_cons_eq_ok.1 h₁
          obtain ⟨l, hl⟩ := ih hmore h₂
          exact ⟨_, proposals_cons_eq_ok.2 ⟨found, l, hfound, hl, rfl⟩⟩
      | false =>
          rw [List.filter_cons_of_neg (by simp [hp])] at h₁
          rw [List.filter_cons_of_pos (by simp [hp])] at h₂
          obtain ⟨found, more, hfound, hmore, -⟩ := proposals_cons_eq_ok.1 h₂
          obtain ⟨l, hl⟩ := ih h₁ hmore
          exact ⟨_, proposals_cons_eq_ok.2 ⟨found, l, hfound, hl, rfl⟩⟩

end Proposals

/-! ## Gathering proposals -/

/-- The transaction of some requests for a target, if there are any. -/
def gathered (target : String) (primary : Option Authentication) (requests : List MethodRequest) :
    Option Transaction :=
  if requests.isEmpty then none else some { target, primary, requests }

theorem gathered_of_ne_nil {target : String} {primary : Option Authentication} (h : l ≠ []) :
    gathered target primary l = some { target, primary, requests := l } := by
  cases l with
  | nil => exact absurd rfl h
  | cons r rest => rfl

theorem gathered_eq_none_iff {target : String} {primary : Option Authentication} :
    gathered target primary l = none ↔ l = [] := by
  cases l <;> simp [gathered]

theorem gathered_eq_some_iff {target : String} {primary : Option Authentication} {t : Transaction} :
    gathered target primary l = some t ↔
      t.target = target ∧ t.primary = primary ∧ t.requests ≠ [] ∧ l = t.requests := by
  constructor
  · intro h
    have hne : l ≠ [] := by
      rintro rfl
      cases h
    rw [gathered_of_ne_nil hne] at h
    cases h
    exact ⟨rfl, rfl, hne, rfl⟩
  · rintro ⟨rfl, rfl, hne, rfl⟩
    exact gathered_of_ne_nil hne

theorem getD_gathered (target : String) (l : List MethodRequest) :
    (gathered target none l).getD { target } = { target, requests := l } := by
  cases l <;> rfl

theorem add_gathered {target : String} {r : MethodRequest} (htarget : r.target = target)
    (hnew : r.source ∉ l.map (·.source)) :
    ((gathered target none l).getD { target }).add r = .ok { target, requests := l ++ [r] } := by
  rw [getD_gathered, Transaction.add_eq_ok_iff]
  refine ⟨htarget, ?_, rfl⟩
  simpa [Transaction.containsSource] using hnew

/-- Of resolvers that share no source at most one reads the principal. -/
theorem length_filter_readsPrincipal_le (hsources : (kinds.map (·.source)).Nodup) :
    (kinds.filter (·.readsPrincipal)).length ≤ 1 := by
  have hsame : (kinds.filter (·.readsPrincipal)).map (·.source) =
      List.replicate (kinds.filter (·.readsPrincipal)).length .principalAttribute := by
    rw [List.eq_replicate_iff]
    refine ⟨List.length_map _, fun source hsource => ?_⟩
    obtain ⟨kind, hkind, rfl⟩ := List.mem_map.1 hsource
    simpa [ResolverKind.readsPrincipal] using (List.mem_filter.1 hkind).2
  have hnodup : ((kinds.filter (·.readsPrincipal)).map (·.source)).Nodup :=
    hsources.sublist (List.filter_sublist.map _)
  rw [hsame, List.nodup_replicate] at hnodup
  exact hnodup

variable [Regex.Dialect] {c : PatternCache}

/-- Where no two resolvers share a source, no request is refused. -/
theorem answer_gather (done : List MethodRequest)
    (hsources : (done.map (·.source) ++ kinds.map (·.source)).Nodup) (c : PatternCache) :
    answer (g.gather ctx (gathered ctx.request.serviceId none done) kinds) c =
      (answer (g.proposals ctx kinds) c).map fun l =>
        gathered ctx.request.serviceId none (done ++ l) := by
  induction kinds generalizing done c with
  | nil =>
      rw [gather, proposals, answer_pure, answer_pure]
      simp [Except.map]
  | cons kind rest ih =>
      rw [gather, answer_bind, answer_proposals_cons]
      cases hfound : answer (g.strongestOf ctx kind) c with
      | error e => rfl
      | ok found =>
          cases found with
          | none =>
              have hrest : (done.map (·.source) ++ rest.map (·.source)).Nodup :=
                hsources.sublist (by simp)
              dsimp only
              rw [ih _ hrest, g.steady_proposals ctx rest _ c]
              cases answer (g.proposals ctx rest) c <;> rfl
          | some r =>
              obtain ⟨hsource, htarget⟩ := from_strongestOf hfound
              have hnew : r.source ∉ done.map (·.source) := by
                intro hold
                have hdisjoint := List.disjoint_of_nodup_append hsources
                exact hdisjoint hold (by simp [hsource])
              have hadd := add_gathered htarget hnew
              have hrest : ((done ++ [r]).map (·.source) ++ rest.map (·.source)).Nodup := by
                simpa [hsource] using hsources
              have hgrown : some { target := ctx.request.serviceId, requests := done ++ [r] } =
                  gathered ctx.request.serviceId none (done ++ [r]) :=
                (gathered_of_ne_nil (by simp)).symm
              dsimp only
              rw [hadd]
              dsimp only
              rw [hgrown, ih _ hrest, g.steady_proposals ctx rest _ c]
              cases answer (g.proposals ctx rest) c with
              | error e => rfl
              | ok more =>
                  change Except.ok (gathered _ none (done ++ [r] ++ more)) =
                    Except.ok (gathered _ none (done ++ (r :: more)))
                  rw [List.append_assoc]
                  rfl

/-- The transaction of a service holds what its resolvers propose. -/
theorem answer_aggregate (hsources : (g.kinds.map (·.source)).Nodup) (c : PatternCache) :
    answer (g.aggregate ctx) c = (answer (g.proposals ctx g.kinds) c).map
      (gathered ctx.request.serviceId ctx.authentication) := by
  have hgather : answer (g.gather ctx none g.kinds) c = _ :=
    answer_gather [] (by simpa using hsources) c
  unfold aggregate
  rw [answer_bind, hgather]
  cases answer (g.proposals ctx g.kinds) c with
  | error e => rfl
  | ok l =>
      cases l with
      | nil => rfl
      | cons r rest => cases ctx.authentication <;> rfl

theorem resolvePrincipal_of_proposals (hsources : (g.kinds.map (·.source)).Nodup)
    (h : answer (g.proposals ctx (g.kinds.filter (·.readsPrincipal))) c = .ok l) :
    answer (g.resolvePrincipal ctx) c = .ok l.head? ∧ l = l.head?.toList := by
  have hshort := (length_proposals_le h).trans (length_filter_readsPrincipal_le hsources)
  have hhead : g.resolution.registry.strongest l = .ok l.head? ∧ l = l.head?.toList := by
    rw [Registry.strongest_of_registered (contains_of_mem_proposals h)]
    match l, hshort with
    | [], _ => exact ⟨rfl, rfl⟩
    | [r], _ => exact ⟨by rw [List.argmin_singleton]; rfl, rfl⟩
  refine ⟨answer_bind_eq_ok.2 ⟨l, h, ?_⟩, hhead.2⟩
  rw [answer_liftM]
  exact hhead.1

/-- What the principal demands is the proposal of the one resolver that reads it. -/
theorem resolvePrincipal_eq_ok_iff (hsources : (g.kinds.map (·.source)).Nodup)
    {found : Option MethodRequest} :
    answer (g.resolvePrincipal ctx) c = .ok found ↔
      answer (g.proposals ctx (g.kinds.filter (·.readsPrincipal))) c = .ok found.toList := by
  constructor
  · intro h
    obtain ⟨l, hl, -⟩ := answer_bind_eq_ok.1 h
    obtain ⟨hhead, hlist⟩ := resolvePrincipal_of_proposals hsources hl
    rw [hhead] at h
    cases h
    rw [← hlist]
    exact hl
  · intro h
    obtain ⟨hhead, -⟩ := resolvePrincipal_of_proposals hsources h
    rw [hhead]
    cases found <;> rfl

end Aggregator

end StepUp
