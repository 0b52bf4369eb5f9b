import StepUp.Proofs.Flow.Growth

/-!
# What an installed ranking decides

A request is selected in two stages.  Every resolver that is asked may make several requests, and
the strongest of them is forwarded; then the ranking of the service picks from what was forwarded.
The first stage is part of gathering a transaction, which holds one request of a source, and goes by
the registry of the service; only the second one belongs to the ranking, which is asked about a
transaction.  So where the ranks of another registry are installed, the two stages may go by
different orders.

`Service.Asked` tells which resolvers are asked until a call selects, `Service.Made` which requests
they make, and `Service.Forwarded` which of these they forward.  The main statement says that the
installed ranks decide among the forwarded requests (`Service.installed_ranking_decides`).  They
decide among all that were made where each of these is matched by a forwarded one, in particular
where the installed ranks order the methods as the registry does; and a resolver that does not read
the principal forwards all it makes.
-/

namespace StepUp

open Cached

/-! ## What a resolver makes and what it forwards -/

/-- A resolver that does not read the principal makes one request at most. -/
theorem Resolution.length_of_resolve [Regex.Dialect] {res : Resolution} {ctx : ResolutionContext}
    {c : PatternCache} {requests : List MethodRequest} {kind : ResolverKind}
    (hkind : kind.readsPrincipal = false)
    (h : answer (res.resolve kind ctx) c = .ok requests) : requests.length ≤ 1 := by
  cases kind with
  | requestParameter => exact (sole_requestParameter h).length_le
  | serviceDefinition => exact (sole_serviceDefinition h).length_le
  | roleRule => cases hkind
  | principalAttribute => cases hkind

namespace Aggregator

variable [Regex.Dialect] {g : Aggregator} {ctx : ResolutionContext} {c : PatternCache}
  {kind : ResolverKind} {kinds : List ResolverKind} {l requests : List MethodRequest}
  {p : MethodRequest}

/-- Resolvers that propose have all answered. -/
theorem strongestOf_of_proposals (h : answer (g.proposals ctx kinds) c = .ok l)
    (hkind : kind ∈ kinds) : ∃ found, answer (g.strongestOf ctx kind) c = .ok found := by
  induction kinds generalizing l with
  | nil => cases hkind
  | cons first rest ih =>
      obtain ⟨found, more, hfound, hmore, -⟩ := proposals_cons_eq_ok.1 h
      rcases List.mem_cons.1 hkind with rfl | hrest
      · exact ⟨found, hfound⟩
      · exact ih hmore hrest

/-- Where a resolver makes a request it forwards one of those it makes, which is at least as strong
in the registry of the service. -/
theorem exists_forwarded {found : Option MethodRequest}
    (hfound : answer (g.strongestOf ctx kind) c = .ok found)
    (hrequests : answer (g.resolution.resolve kind ctx) c = .ok requests) (hp : p ∈ requests) :
    ∃ m, found = some m ∧ m ∈ requests ∧ g.resolution.registry.AtLeast m.method p.method := by
  obtain ⟨requests', hrequests', hstrongest⟩ := answer_bind_eq_ok.1 hfound
  rw [hrequests] at hrequests'
  cases hrequests'
  rw [answer_liftM] at hstrongest
  obtain ⟨hregistered, -⟩ := Registry.strongest_eq_ok_iff.1 hstrongest
  obtain ⟨m, hm⟩ := Registry.exists_strongest hregistered (List.ne_nil_of_mem hp)
  rw [hm] at hstrongest
  have hfirst := (Registry.isStrongest_of_strongest hm).2
  exact ⟨m, (Except.ok.inj hstrongest).symm, hfirst.mem, hfirst.atLeast hregistered hp⟩

end Aggregator

theorem Transaction.Sound.mono {reg reg' : Registry} {t : Transaction} (h : t.Sound reg)
    (hknown : ∀ n, reg.contains n = true → reg'.contains n = true) : t.Sound reg' where
  registered := fun r hr => hknown r.method (h.registered r hr)
  targets := h.targets
  sources := h.sources
  nonempty := h.nonempty

namespace Service

section

variable [Regex.Dialect] {s : Service} {k : Ranking} {x y z : Attempt} {q : LoginRequest}
  {c c' : PatternCache} {call : Call} {r p m : MethodRequest}

/-- A service ranks by the ranks of a registry that has all methods of its own one. -/
structure RanksBy (s : Service) (k : Ranking) : Prop where
  strategy : s.strategy = k.strategy
  known : ∀ n, s.registry.contains n = true → k.registry.contains n = true
  sources : (s.aggregator.kinds.map (·.source)).Nodup

theorem Built.ranksBy (hs : s.Built)
    (hknown : ∀ n, s.registry.contains n = true → k.registry.contains n = true) :
    (s.withRanking k).RanksBy k :=
  ⟨rfl, hknown, hs.sources_nodup⟩

omit [Regex.Dialect] in
theorem RanksBy.exists_highest (hk : s.RanksBy k) {t : Transaction} (ht : t.Sound s.registry) :
    ∃ r, s.strategy.highest t = .ok (some r) := by
  obtain ⟨r, hr, -⟩ := (ht.mono hk.known).exists_strongest
  rw [hk.strategy]
  exact ⟨r, hr⟩

/-! ## What is asked for until a call selects -/

/-- The resolvers that are asked until a call selects, with what they are shown: all of them when
the login begins, and those that read the principal once more by a primary step. -/
inductive Asked (s : Service) (q : LoginRequest) : Call → ResolverKind → ResolutionContext → Prop
  | begin (call : Call) {kind : ResolverKind} : kind ∈ s.aggregator.kinds →
      Asked s q call kind (s.context q (s.sessionOf q))
  | primary (q' : LoginRequest) (a : Authentication) (credential : Option Credential)
      {kind : ResolverKind} : kind ∈ s.aggregator.kinds → kind.readsPrincipal = true →
      Asked s q (.completePrimary q' a credential) kind (s.context q' (some a))

/-- A resolver that is asked makes a request.  What it answers does not depend on the cache that it
finds, so it is asked with an empty one. -/
def Made (s : Service) (q : LoginRequest) (call : Call) (p : MethodRequest) : Prop :=
  ∃ kind ctx requests, s.Asked q call kind ctx ∧
    answer (s.aggregator.resolution.resolve kind ctx) .empty = .ok requests ∧ p ∈ requests

/-- A resolver that is asked forwards a request. -/
def Forwarded (s : Service) (q : LoginRequest) (call : Call) (m : MethodRequest) : Prop :=
  ∃ kind ctx, s.Asked q call kind ctx ∧
    answer (s.aggregator.strongestOf ctx kind) .empty = .ok (some m)

/-- The resolvers that are asked have all answered, and a list holds what they forward. -/
structure Answered (s : Service) (q : LoginRequest) (call : Call) (l : List MethodRequest) :
    Prop where
  answered : ∀ kind ctx, s.Asked q call kind ctx →
    ∃ found, answer (s.aggregator.strongestOf ctx kind) .empty = .ok found
  mem_iff : ∀ m, m ∈ l ↔ s.Forwarded q call m

/-- Where all have answered, a request that is made is matched by a forwarded one in the registry of
the service. -/
theorem Answered.exists_forwarded {l : List MethodRequest} (h : s.Answered q call l)
    (hp : s.Made q call p) : ∃ m, s.Forwarded q call m ∧ s.registry.AtLeast m.method p.method := by
  obtain ⟨kind, ctx, requests, hasked, hrequests, hmem⟩ := hp
  obtain ⟨found, hfound⟩ := h.answered kind ctx hasked
  obtain ⟨m, rfl, -, hatLeast⟩ := Aggregator.exists_forwarded hfound hrequests hmem
  exact ⟨m, ⟨kind, ctx, hasked, hfound⟩, hatLeast⟩

/-- Where all have answered, a request that does not come from the principal is forwarded. -/
theorem Answered.forwarded_of_source_ne {l : List MethodRequest} (h : s.Answered q call l)
    (hp : s.Made q call p) (hsource : p.source ≠ .principalAttribute) : s.Forwarded q call p := by
  obtain ⟨kind, ctx, requests, hasked, hrequests, hmem⟩ := hp
  obtain ⟨found, hfound⟩ := h.answered kind ctx hasked
  obtain ⟨m, rfl, hm, -⟩ := Aggregator.exists_forwarded hfound hrequests hmem
  have hkind : kind.readsPrincipal = false := by
    have hfrom := ((Resolution.fit_resolve hrequests).origin p hmem).1
    simpa [ResolverKind.readsPrincipal, hfrom] using hsource
  have hone : requests.length = 1 :=
    le_antisymm (Resolution.length_of_resolve hkind hrequests) (List.length_pos_of_mem hmem)
  obtain ⟨only, rfl⟩ := List.length_eq_one_iff.1 hone
  have hsame : m = p := (List.mem_singleton.1 hm).trans (List.mem_singleton.1 hmem).symm
  exact ⟨kind, ctx, hasked, hsame ▸ hfound⟩

/-! ## Attempts without a selection -/

/-- A call that leaves an attempt without a selection found none and leaves the transaction as it
is: whenever there is one after a primary step, the ranking has something to honor. -/
theorem Effect.transaction_of_unselected (h : s.Effect x c call y) (hk : s.RanksBy k)
    (hx : ∀ t, x.transaction = some t → t.Sound s.registry) (hnone : y.selected = none) :
    x.selected = none ∧ y.transaction = x.transaction := by
  have hsound : ∀ t, y.transaction = some t → t.Sound s.registry := fun t ht => h.sound hx ht
  have hkept : x.selected = none := by
    cases hr : x.selected with
    | none => rfl
    | some r =>
        rcases h.selected_or_required hr with hsame | ⟨-, r', -, -, hr'⟩
        · rw [hnone] at hsame
          cases hsame
        · rw [hnone] at hr'
          cases hr'
  refine ⟨hkept, ?_⟩
  cases h with
  | kept => rfl
  | wentOn q => rfl
  | required q r _ => rfl
  | method a credential r chain _ _ => rfl
  | primary q a credential found chained hdemand hchained =>
      obtain ⟨staged, hstaged, -, htransaction, hselected⟩ := chainPrimary_eq_ok hchained
      rw [transaction_settle] at hsound ⊢
      cases ht : chained.transaction with
      | some t =>
          -- a transaction has something to honor, which would be selected
          obtain ⟨r, hhigh⟩ := hk.exists_highest (hsound t ht)
          have hselect := selectStrongest_of_highest (hselected.trans hkept) ht hhigh
          rw [settle_of_selectStrongest hselect] at hnone
          cases hnone
      | none =>
          cases hxt : x.transaction with
          | none => rfl
          | some t =>
              -- a transaction that was there goes on
              rw [hxt] at hstaged
              obtain ⟨u, rfl, -, -⟩ := continues_of_stagedWith hstaged
              rw [ht] at htransaction
              cases htransaction

theorem Leads.transaction_of_unselected (h : s.Leads x z) (hk : s.RanksBy k)
    (hx : ∀ t, x.transaction = some t → t.Sound s.registry) (hnone : z.selected = none) :
    z.transaction = x.transaction := by
  induction h with
  | refl => rfl
  | @call w call c hw ih =>
      have hsound : ∀ t, w.transaction = some t → t.Sound s.registry := fun t ht => hw.sound hx ht
      obtain ⟨hkept, hsame⟩ :=
        (effect_after s w c call).transaction_of_unselected hk hsound hnone
      exact hsame.trans (ih hkept)

/-! ## What the ranking is asked about -/

/-- The requests of an attempt that begins are the proposals of all resolvers. -/
theorem proposals_eq_requests (hsources : (s.aggregator.kinds.map (·.source)).Nodup)
    (hbegin : answer (s.begin q) c = .ok x) :
    answer (s.aggregator.proposals (s.context q (s.sessionOf q)) s.aggregator.kinds) .empty =
      .ok x.requests := by
  obtain ⟨l, hl, hgathered⟩ := gathered_of_begin hsources hbegin
  rw [hl, Attempt.requests, hgathered]
  cases l <;> rfl

/-- An evaluation asks no resolver, so those of the beginning remain. -/
theorem answered_begin (hsources : (s.aggregator.kinds.map (·.source)).Nodup)
    (hbegin : answer (s.begin q) c = .ok x) (q' : LoginRequest) :
    s.Answered q (.evaluate q') x.requests where
  answered := by
    rintro kind ctx (⟨-, hkind⟩ | _)
    exact Aggregator.strongestOf_of_proposals (proposals_eq_requests hsources hbegin) hkind
  mem_iff := by
    intro m
    rw [Aggregator.mem_proposals_iff (proposals_eq_requests hsources hbegin)]
    constructor
    · rintro ⟨kind, hkind, hm⟩
      exact ⟨kind, _, .begin _ hkind, hm⟩
    · rintro ⟨kind, ctx, ⟨-, hkind⟩ | _, hm⟩
      exact ⟨kind, hkind, hm⟩

/-- A primary step asks the resolvers that read the principal, besides those of the beginning. -/
theorem answered_primary (hsources : (s.aggregator.kinds.map (·.source)).Nodup)
    (hbegin : answer (s.begin q) c = .ok x) (hnone : z.selected = none) {q' : LoginRequest}
    {a : Authentication} {found : Option MethodRequest}
    (hdemand : answer (s.principalDemand z q' a) c' = .ok found) (credential : Option Credential) :
    s.Answered q (.completePrimary q' a credential) (x.requests ++ found.toList) where
  answered := by
    have hproposals := (principalDemand_eq_ok_iff hsources hnone).1 hdemand
    intro kind ctx hasked
    cases hasked with
    | begin _ hkind =>
        exact Aggregator.strongestOf_of_proposals (proposals_eq_requests hsources hbegin) hkind
    | primary _ _ _ hkind hreads =>
        exact Aggregator.strongestOf_of_proposals hproposals (List.mem_filter.2 ⟨hkind, hreads⟩)
  mem_iff := by
    have hproposals := (principalDemand_eq_ok_iff hsources hnone).1 hdemand
    intro m
    rw [List.mem_append, Aggregator.mem_proposals_iff (proposals_eq_requests hsources hbegin),
      Aggregator.mem_proposals_iff hproposals]
    constructor
    · rintro (⟨kind, hkind, hm⟩ | ⟨kind, hkind, hm⟩)
      · exact ⟨kind, _, .begin _ hkind, hm⟩
      · obtain ⟨hmem, hreads⟩ := List.mem_filter.1 hkind
        exact ⟨kind, _, .primary _ _ _ hmem hreads, hm⟩
    · rintro ⟨kind, ctx, hasked, hm⟩
      cases hasked with
      | begin _ hkind => exact Or.inl ⟨kind, hkind, hm⟩
      | primary _ _ _ hkind hreads =>
          exact Or.inr ⟨kind, List.mem_filter.2 ⟨hkind, hreads⟩, hm⟩

/-- A call that selects where nothing was selected has asked the ranking about all that is
forwarded. -/
theorem Effect.answered (h : s.Effect z c' call y) (hk : s.RanksBy k)
    (hbegin : answer (s.begin q) c = .ok x) (hz : s.Leads x z) (hnone : z.selected = none)
    (hr : y.selected = some r) : s.Answered q call y.requests := by
  have hbefore : z.requests = x.requests :=
    congrArg Transaction.requestsOf
      (hz.transaction_of_unselected hk (settled_begin hbegin).sound hnone)
  cases h with
  | kept => simp [hnone] at hr
  | wentOn q' => simp [hnone] at hr
  | method a credential r' chain hselected _ => simp [hnone] at hselected
  | required q' r' _ =>
      have hsame : ({ z.select r' with chain := seededChain z } : Attempt).requests = x.requests :=
        hbefore
      rw [hsame]
      exact answered_begin hk.sources hbegin q'
  | primary q' a credential found chained hdemand hchained =>
      rw [requests_of_chainPrimary hchained, hbefore]
      exact answered_primary hk.sources hbegin hnone hdemand credential

/-- What a call selects where nothing was selected stands before all requests in the order of the
installed ranks. -/
theorem Effect.isStrongest (h : s.Effect z c' call y) (hk : s.RanksBy k) (hnone : z.selected = none)
    (hr : y.selected = some r) :
    (∀ m ∈ y.requests, k.registry.contains m.method = true) ∧
      k.registry.IsStrongest y.requests r := by
  rcases h.selected with hsame | ⟨t, r', ht, hhigh, hr'⟩
  · rw [hsame, hnone] at hr
    cases hr
  · rw [hr] at hr'
    cases hr'
    rw [hk.strategy] at hhigh
    have hrequests : y.requests = t.requests := by
      rw [Attempt.requests, ht]
      rfl
    rw [hrequests]
    exact Registry.isStrongest_of_strongest hhigh

/-- The ranks of its own registry are those that a service has from the beginning. -/
theorem Built.withRanking_registry (hs : s.Built) : s.withRanking ⟨s.registry⟩ = s := by
  have hstrategy := hs.strategy_eq
  obtain ⟨aggregator, strategy, sessions, services⟩ := s
  dsimp only at hstrategy
  rw [hstrategy]
  rfl

/-! ## The main statement -/

/-- A service has the ranks of a registry installed that has all its methods, and a call selects a
request where nothing was selected.  Then this request is forwarded, and it is at least as strong in
the installed ranks as all that are forwarded.  It is at least as strong as all that were made
exactly where each request of the principal that was made is matched by a forwarded one, in
particular where the installed ranks order methods as the registry of the service does. -/
theorem installed_ranking_decides (hs : s.Built)
    (hknown : ∀ n, s.registry.contains n = true → k.registry.contains n = true)
    (hbegin : answer ((s.withRanking k).begin q) c = .ok x) (hz : (s.withRanking k).Leads x z)
    (hnone : z.selected = none) (hr : ((s.withRanking k).after z c' call).selected = some r) :
    (s.withRanking k).Forwarded q call r ∧
    (∀ m, (s.withRanking k).Forwarded q call m → k.registry.AtLeast r.method m.method) ∧
    ((∀ p, (s.withRanking k).Made q call p → k.registry.AtLeast r.method p.method) ↔
      ∀ p, (s.withRanking k).Made q call p → p.source = .principalAttribute →
        ∃ m, (s.withRanking k).Forwarded q call m ∧ k.registry.AtLeast m.method p.method) ∧
    ((∀ a b, s.registry.AtLeast a b → k.registry.AtLeast a b) →
      ∀ p, (s.withRanking k).Made q call p → k.registry.AtLeast r.method p.method) ∧
    s.withRanking ⟨s.registry⟩ = s := by
  have hk : (s.withRanking k).RanksBy k := hs.ranksBy hknown
  have heffect := effect_after (s.withRanking k) z c' call
  have hanswered := heffect.answered hk hbegin hz hnone hr
  obtain ⟨hregistered, hfirst⟩ := heffect.isStrongest hk hnone hr
  have hmost : ∀ m, (s.withRanking k).Forwarded q call m → k.registry.AtLeast r.method m.method :=
    fun m hm => hfirst.atLeast hregistered ((hanswered.mem_iff m).2 hm)
  have hforwarded : (s.withRanking k).Forwarded q call r := (hanswered.mem_iff r).1 hfirst.mem
  refine ⟨hforwarded, hmost, ⟨fun hall p hp _ => ⟨r, hforwarded, hall p hp⟩, ?_⟩, ?_,
    hs.withRanking_registry⟩
  · intro hmatched p hp
    by_cases hsource : p.source = .principalAttribute
    · obtain ⟨m, hm, hatLeast⟩ := hmatched p hp hsource
      exact (hmost m hm).trans hatLeast
    · exact hmost p (hanswered.forwarded_of_source_ne hp hsource)
  · intro horder p hp
    obtain ⟨m, hm, hatLeast⟩ := hanswered.exists_forwarded hp
    exact (hmost m hm).trans (horder _ _ hatLeast)

end

/-- The ranks of the methods of the small service, with the two named ones the other way round. -/
def reversedRanks : Ranking :=
  ⟨⟨[⟨"otp", 1⟩, ⟨"duo", 2⟩, ⟨"", 3⟩], by decide⟩⟩

theorem contains_reversedRanks {n : String} (h : small.registry.contains n = true) :
    reversedRanks.registry.contains n = true := by
  have hmem : n ∈ small.registry.methods.map (·.name) := by
    by_contra hother
    rw [Registry.contains, Registry.get?_eq_none_iff.2 hother] at h
    cases h
  have hnames : n = "duo" ∨ n = "otp" ∨ n = "" := by
    simpa [small, registry, smallRegistry, smallSettings] using hmem
  rcases hnames with rfl | rfl | rfl <;> rfl

/-- A login that names the weaker of two methods, for the application that declares the stronger
one.  With the ranks reversed the named one is selected, and the installed ranks justify it. -/
theorem installed_ranking_decides_for_otp :
    small.Built ∧ ∃ x, answer ((small.withRanking reversedRanks).begin
        { serviceId := "app", authnMethod := some "otp" }) .empty = .ok x ∧ x.selected = none ∧
      ((small.withRanking reversedRanks).after x .empty
        (.completePrimary smallRequest (aliceWith .null) none)).selected =
          some ⟨"otp", "app", .requestParam⟩ ∧
      (small.withRanking reversedRanks).Forwarded { serviceId := "app", authnMethod := some "otp" }
        (.completePrimary smallRequest (aliceWith .null) none) ⟨"duo", "app", .serviceDefinition⟩ ∧
      reversedRanks.registry.AtLeast "otp" "duo" := by
  have hduo : (small.withRanking reversedRanks).Forwarded
      { serviceId := "app", authnMethod := some "otp" }
      (.completePrimary smallRequest (aliceWith .null) none) ⟨"duo", "app", .serviceDefinition⟩ :=
    ⟨.serviceDefinition, _, .begin _ (by decide), rfl⟩
  obtain ⟨-, hmost, -⟩ := installed_ranking_decides small_built
    (fun _ => contains_reversedRanks)
    (show answer ((small.withRanking reversedRanks).begin
      { serviceId := "app", authnMethod := some "otp" }) .empty = .ok _ from rfl)
    .refl rfl
    (show ((small.withRanking reversedRanks).after _ .empty
      (.completePrimary smallRequest (aliceWith .null) none)).selected =
        some ⟨"otp", "app", .requestParam⟩ from rfl)
  exact ⟨small_built, _, rfl, rfl, rfl, hduo, hmost _ hduo⟩

/-- An authentication of a principal that demands two methods. -/
def demandsBoth : Authentication :=
  { principal := ⟨"alice", Attributes.empty.insert "authn_method" (.arr [.str "duo", .str "otp"])⟩ }

/-- A principal demands two methods.  The one that is stronger in the registry is forwarded and
selected, and the other one, which is stronger in the installed ranks, is not. -/
theorem installed_ranking_sees_what_is_forwarded :
    small.Built ∧
      (∀ n, small.registry.contains n = true → reversedRanks.registry.contains n = true) ∧
      answer ((small.withRanking reversedRanks).begin { serviceId := "other" }) .empty =
        .ok freeAttempt ∧ freeAttempt.selected = none ∧
      ((small.withRanking reversedRanks).after freeAttempt .empty
        (.completePrimary { serviceId := "other" } demandsBoth none)).selected =
          some ⟨"duo", "other", .principalAttribute⟩ ∧
      (small.withRanking reversedRanks).Made { serviceId := "other" }
        (.completePrimary { serviceId := "other" } demandsBoth none)
        ⟨"otp", "other", .principalAttribute⟩ ∧
      ¬ reversedRanks.registry.AtLeast "duo" "otp" := by
  refine ⟨small_built, fun _ => contains_reversedRanks, rfl, rfl, rfl, ?_, ?_⟩
  · exact ⟨.roleRule, _, _, .primary _ _ _ (by decide) rfl, rfl, by decide⟩
  · rintro ⟨duo, otp, hduo, hotp, hle⟩
    cases hduo
    cases hotp
    exact absurd hle (by decide)

end Service

end StepUp
