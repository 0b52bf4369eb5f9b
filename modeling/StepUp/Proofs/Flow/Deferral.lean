import StepUp.Proofs.Flow.Invariant
import StepUp.Proofs.Flow.UnknownSession
import StepUp.Proofs.Resolution.Proposals

/-!
# Deferred and immediate enforcement

A login may come with a session, and then what it demands is decided at once: all resolvers are
asked about the authentication of the session.  Or it comes without one, and the decision is
deferred to the primary step: the resolvers are asked without an authentication when the login
begins, and those that read the principal when it is authenticated.

Both ways lead to the same end where the session and the primary step bring the same authentication.
The proposals are the same up to their order, and so is the transaction; and what a transaction
still asks for after an authentication (`Strategy.owed`) does not depend on the order of its
requests.  `evaluate` answers it for a session, and the primary step for what it has chained.
-/

namespace StepUp

open Cached

/-! ## What is owed -/

/-- What a transaction still asks for after an authentication: the request that the ranking honors,
unless the authentication satisfies a method that covers it. -/
def Strategy.owed (k : Strategy) (a : Authentication) :
    Option Transaction → Except ServiceError (Option MethodRequest)
  | none => .ok none
  | some t =>
    match k.highest t with
    | .error e => .error e
    | .ok none => .ok none
    | .ok (some r) =>
      (k.covers a.satisfiedMethods r.method).map fun covered => if covered then none else some r

/-- The decision that requires what is owed. -/
def Decision.ofOwed : Option MethodRequest → Decision
  | none => .continueNormally
  | some r => .requireMethod r

/-- The outcome that requires what is owed. -/
def Outcome.ofOwed : Option MethodRequest → Outcome
  | none => .completed
  | some r => .requireMethod r

namespace Strategy

variable {k : Strategy} {a : Authentication} {input : EscalationInput}

/-- A session that is not to be renewed is required what it owes, unless this has a blank name. -/
theorem decide_eq_owed (hid : input.hasSession = true) (hsession : input.session = some a)
    (hrenew : input.renew = false)
    (hblank : ∀ t r, input.transaction = some t → k.highest t = .ok (some r) →
      Text.blank r.method = false) :
    k.decide input = (k.owed a input.transaction).map Decision.ofOwed := by
  unfold decide
  cases ht : input.transaction with
  | none => rfl
  | some t =>
      dsimp only [owed]
      cases hhigh : k.highest t with
      | error e => rfl
      | ok best =>
          cases best with
          | none => rfl
          | some r =>
              have hname := hblank t r ht hhigh
              simp only [hid, hsession, hrenew, hname]
              cases k.covers a.satisfiedMethods r.method with
              | error e => rfl
              | ok covered => cases covered <;> rfl

end Strategy

/-- A ranking by ranks does not look at the order of the requests of a sound transaction. -/
theorem Ranking.owed_congr {k : Ranking} {t u : Transaction} (ht : t.Sound k.registry)
    (hperm : t.requests.Perm u.requests) (a : Authentication) :
    k.strategy.owed a (some t) = k.strategy.owed a (some u) := by
  have hhigh : k.strategy.highest u = k.strategy.highest t := ht.strongest_perm hperm
  simp only [Strategy.owed, hhigh]

/-! ## Outcomes and decisions of what is owed -/

theorem Chain.satisfiedMethods_single (credentials : List (String × Credential))
    (a : Authentication) : (⟨credentials, [a]⟩ : Chain).satisfiedMethods = a.satisfiedMethods := by
  refine Text.NameSet.ext fun n => ?_
  rw [satisfiedMethods, Text.NameSet.mem_ofList, List.flatMap_singleton]
  rfl

namespace Service

section

variable {s : Service} {x y : Attempt} {q : LoginRequest} {a : Authentication}
  {found : Option MethodRequest}

/-- Where nothing is selected, the outcome of a chain of one authentication requires what this
authentication owes. -/
theorem settle_eq_owed (hselected : x.selected = none) (hchain : x.chain = ⟨[], [a]⟩) :
    (s.settle x).1 = (s.strategy.owed a x.transaction).map Outcome.ofOwed := by
  unfold settle selectStrongest
  rw [hselected]
  cases ht : x.transaction with
  | none => simp [outcome, hselected, Strategy.owed, Except.map, Outcome.ofOwed]
  | some t =>
      dsimp only [Strategy.owed]
      cases hhigh : s.strategy.highest t with
      | error e => rfl
      | ok best =>
          cases best with
          | none => simp [outcome, hselected, Except.map, Outcome.ofOwed]
          | some r =>
              have hcovers : s.covers (x.select r).chain r =
                  s.strategy.covers a.satisfiedMethods r.method := by
                change s.strategy.covers x.chain.satisfiedMethods r.method = _
                rw [hchain, Chain.satisfiedMethods_single]
              change (s.outcome (x.select r)) = _
              unfold outcome
              rw [show (x.select r).selected = some r from rfl]
              dsimp only
              rw [hcovers]
              cases s.strategy.covers a.satisfiedMethods r.method with
              | error e => rfl
              | ok covered => cases covered <;> rfl

/-- A request that fits is staged and the authentication chained. -/
theorem exists_chainPrimary {t : Option Transaction}
    (hstaged : stagedWith x.transaction found = .ok t)
    (hchain : x.chain = .empty) (a : Authentication) :
    ∃ y, chainPrimary x found a none = .ok y ∧ y.chain = ⟨[], [a]⟩ := by
  have happend : x.chain.append a none = .ok ⟨[], [a]⟩ := by
    rw [hchain]
    rfl
  have hok : ∃ y, chainPrimary x found a none = .ok y := by
    cases hchained : chainPrimary x found a none with
    | ok y => exact ⟨y, rfl⟩
    | error f =>
        rcases chainPrimary_eq_error_iff.1 hchained with hrefused | ⟨-, hother⟩
        · rw [hstaged] at hrefused
          cases hrefused
        · rw [Option.map_none, happend] at hother
          cases hother
  obtain ⟨y, hy⟩ := hok
  obtain ⟨-, -, happ, -⟩ := chainPrimary_eq_ok hy
  refine ⟨y, hy, ?_⟩
  rw [Option.map_none, happend] at happ
  exact (Except.ok.inj happ).symm

theorem selected_of_settle {r : MethodRequest} (h : (s.settle x).1 = .ok (.requireMethod r)) :
    (s.settle x).2.selected = some r := by
  unfold settle at h ⊢
  cases hselect : s.selectStrongest x with
  | error e =>
      rw [hselect] at h
      cases h
  | ok y =>
      rw [hselect] at h
      exact (outcome_eq_requireMethod_iff.1 h).1

variable [Regex.Dialect] {c c' c'' : PatternCache}

/-- Without a session id an attempt goes on as it is. -/
theorem evaluate_without_session (hs : s.Built) (hq : q.session? = none)
    (hsound : ∀ t, x.transaction = some t → t.Sound s.registry) :
    s.evaluate x q = (.ok .continueNormally, { x with state := .continueNormally }) := by
  refine evaluate_of_continue ?_
  have hid : (escalationInput x q).hasSession = false := by simp [escalationInput, hq]
  have htransaction : (escalationInput x q).transaction = x.transaction := rfl
  unfold Strategy.decide
  rw [htransaction]
  cases ht : x.transaction with
  | none => rfl
  | some t =>
      obtain ⟨r, hr, -⟩ := (hsound t ht).exists_strongest
      have hhigh : s.strategy.highest t = .ok (some r) := by
        rw [hs.strategy_eq]
        exact hr
      simp [hhigh, hid]

/-! ## The two runs -/

/-- What a call answers, with the attempt that it leaves, where it succeeds. -/
def succeeded {α : Type} : Except ServiceError α × Attempt → Except ServiceError (α × Attempt)
  | (.ok answer, x) => .ok (answer, x)
  | (.error e, _) => .error e

/-- The run that ends with the primary step. -/
def deferred (s : Service) (q : LoginRequest) (a : Authentication) (c c' : PatternCache) :
    Except ServiceError (Outcome × Attempt) := do
  let begun ← answer (s.begin q) c
  let (_, evaluated) ← succeeded (s.evaluate begun q)
  succeeded (s.completePrimary evaluated q a none c').1

/-- The run that ends with the decision. -/
def immediate (s : Service) (q : LoginRequest) (c : PatternCache) :
    Except ServiceError (Decision × Attempt) := do
  let begun ← answer (s.begin q) c
  succeeded (s.evaluate begun q)

/-- What the resolvers of a service propose for an authentication, by whether they read the
principal. -/
structure Proposed (s : Service) (q : LoginRequest) (a : Authentication)
    (early : List MethodRequest) (late : Option MethodRequest) : Prop where
  early : answer (s.aggregator.proposals (s.context q (some a))
    (s.aggregator.kinds.filter fun k => !k.readsPrincipal)) .empty = .ok early
  late : answer (s.aggregator.proposals (s.context q (some a))
    (s.aggregator.kinds.filter (·.readsPrincipal))) .empty = .ok late.toList

variable {early : List MethodRequest} {late : Option MethodRequest}

omit [Regex.Dialect] in
theorem stage_eq_add {t : Option Transaction} {r : MethodRequest} {target : String}
    (htarget : r.target = target) : stage t r = (t.getD { target }).add r := by
  cases t with
  | some t => rfl
  | none =>
      symm
      rw [Option.getD_none, stage, Transaction.add_eq_ok_iff]
      refine ⟨htarget, rfl, ?_⟩
      rw [Transaction.ofRequest, htarget]
      rfl

/-- A request of the principal fits to the others. -/
theorem Proposed.stagedWith_eq (h : s.Proposed q a early late) :
    stagedWith (Aggregator.gathered q.serviceId none early) late =
      .ok (Aggregator.gathered q.serviceId none (early ++ late.toList)) := by
  cases late with
  | none => simp [stagedWith]
  | some r =>
      obtain ⟨⟨kind, hkind, hsource⟩, htarget⟩ := Aggregator.from_mem_proposals h.late r (by simp)
      have hreads : r.source = .principalAttribute := by
        rw [hsource]
        simpa [ResolverKind.readsPrincipal] using (List.mem_filter.1 hkind).2
      have hnew : r.source ∉ early.map (·.source) := by
        intro hold
        obtain ⟨p, hp, hsame⟩ := List.mem_map.1 hold
        obtain ⟨⟨other, hother, hfrom⟩, -⟩ := Aggregator.from_mem_proposals h.early p hp
        have hreads' : other.source ≠ .principalAttribute := by
          simpa [ResolverKind.readsPrincipal] using (List.mem_filter.1 hother).2
        exact hreads' (hfrom ▸ hsame.trans hreads)
      have hservice : r.target = q.serviceId := htarget
      rw [stagedWith, stage_eq_add hservice, Aggregator.add_gathered hservice hnew]
      exact congrArg Except.ok (Aggregator.gathered_of_ne_nil (by simp)).symm

theorem begin_of_proposals (hs : s.Built) {l : List MethodRequest} {session : Option Authentication}
    (hsession : s.sessionOf q = session)
    (hl : answer (s.aggregator.proposals (s.context q session) s.aggregator.kinds) .empty = .ok l)
    (c : PatternCache) :
    answer (s.begin q) c = .ok (.start (Aggregator.gathered q.serviceId session l) session) := by
  have haggregate : answer (s.aggregator.aggregate (s.context q session)) c =
      .ok (Aggregator.gathered q.serviceId session l) := by
    rw [Aggregator.answer_aggregate hs.sources_nodup,
      Aggregator.steady_proposals _ _ _ c .empty, hl]
    rfl
  exact answer_bind_eq_ok.2 ⟨_, hsession ▸ haggregate, by rw [hsession]; rfl⟩

theorem proposals_of_begin (hs : s.Built) {session : Option Authentication}
    (hsession : s.sessionOf q = session) (h : answer (s.begin q) c = .ok x) :
    ∃ l, answer (s.aggregator.proposals (s.context q session) s.aggregator.kinds) .empty =
      .ok l := by
  obtain ⟨l, hl, -⟩ := gathered_of_begin hs.sources_nodup h
  exact ⟨l, hsession ▸ hl⟩

theorem proposals_without (s : Service) (q : LoginRequest) (a : Authentication) :
    answer (s.aggregator.proposals (s.context q none) s.aggregator.kinds) .empty =
      answer (s.aggregator.proposals (s.context q (some a))
        (s.aggregator.kinds.filter fun k => !k.readsPrincipal)) .empty := by
  have hanonymous : s.context q none = (s.context q (some a)).anonymous := rfl
  rw [hanonymous, Aggregator.answer_proposals_anonymous]

theorem deferred_of_begin (hs : s.Built) (hq : q.session? = none)
    (hbegin : answer (s.begin q) c = .ok x) (a : Authentication) (c' : PatternCache) :
    s.deferred q a c c' =
      succeeded (s.completePrimary { x with state := .continueNormally } q a none c').1 := by
  have heval := evaluate_without_session hs hq (settled_begin hbegin).sound
  unfold deferred
  rw [hbegin]
  change (do
    let (_, evaluated) ← succeeded (s.evaluate x q)
    succeeded (s.completePrimary evaluated q a none c').1) = _
  rw [heval]
  rfl

/-- A run without a session settles an attempt with everything that is proposed, of which nothing is
selected and to which the primary authentication is chained. -/
theorem deferred_eq_settle (hs : s.Built) (hq : q.session? = none)
    (h : s.Proposed q a early late) (c c' : PatternCache) :
    ∃ x : Attempt, x.selected = none ∧ x.chain = ⟨[], [a]⟩ ∧
      x.transaction = Aggregator.gathered q.serviceId (some a) (early ++ late.toList) ∧
      s.deferred q a c c' = succeeded (s.settle x) := by
  have hsession : s.sessionOf q = none := by simp [sessionOf, hq]
  have hbegin := begin_of_proposals hs hsession ((s.proposals_without q a).trans h.early) c
  let evaluated : Attempt :=
    { Attempt.start (Aggregator.gathered q.serviceId none early) none with
      state := .continueNormally }
  have hdemand : answer (s.principalDemand evaluated q a) c' = .ok late :=
    (principalDemand_eq_ok_iff hs.sources_nodup rfl).2 h.late
  obtain ⟨x, hx, hchain⟩ := exists_chainPrimary (x := evaluated) h.stagedWith_eq rfl a
  obtain ⟨t, ht, -, htransaction, hselected⟩ := chainPrimary_eq_ok hx
  have hstaged : t = Aggregator.gathered q.serviceId none (early ++ late.toList) :=
    Except.ok.inj (ht.symm.trans h.stagedWith_eq)
  refine ⟨x, hselected, hchain, ?_, ?_⟩
  · rw [htransaction, hstaged]
    cases early ++ late.toList <;> rfl
  · rw [deferred_of_begin hs hq hbegin, completePrimary_eq, hdemand]
    dsimp only
    unfold primaryStep
    rw [hx]

theorem proposed_of_deferred (hs : s.Built) (hq : q.session? = none) {o : Outcome}
    (h : s.deferred q a c c' = .ok (o, x)) : ∃ early late, s.Proposed q a early late := by
  have hsession : s.sessionOf q = none := by simp [sessionOf, hq]
  cases hbegin : answer (s.begin q) c with
  | error e =>
      unfold deferred at h
      rw [hbegin] at h
      cases h
  | ok begun =>
      obtain ⟨early, hearly⟩ := proposals_of_begin hs hsession hbegin
      rw [deferred_of_begin hs hq hbegin, completePrimary_eq] at h
      cases hdemand : answer (s.principalDemand
          { begun with state := .continueNormally } q a) c' with
      | error e =>
          rw [hdemand] at h
          cases h
      | ok late =>
          obtain ⟨-, -, hnone, -⟩ := of_begin hbegin
          exact ⟨early, late, (s.proposals_without q a).symm.trans hearly,
            (principalDemand_eq_ok_iff hs.sources_nodup hnone).1 hdemand⟩

/-! ## Both runs agree -/

/-- Two transactions hold the same requests for one target, with one primary authentication; or
there is none of both. -/
def SameDemands (a : Authentication) : Option Transaction → Option Transaction → Prop
  | none, none => True
  | some t, some u => t.target = u.target ∧ t.requests.Perm u.requests ∧
      t.primary = some a ∧ u.primary = some a
  | _, _ => False

omit [Regex.Dialect] in
/-- Reordered requests are gathered as what they are, or not at all. -/
theorem gathered_of_perm {l₁ l₂ : List MethodRequest} (h : l₁.Perm l₂) (target : String)
    (primary : Option Authentication) :
    Aggregator.gathered target primary l₁ = none ∧ Aggregator.gathered target primary l₂ = none ∨
      Aggregator.gathered target primary l₁ = some { target, primary, requests := l₁ } ∧
        Aggregator.gathered target primary l₂ = some { target, primary, requests := l₂ } := by
  cases l₁ with
  | nil =>
      cases h.nil_eq
      exact Or.inl ⟨rfl, rfl⟩
  | cons r rest =>
      have hne : l₂ ≠ [] := by
        rintro rfl
        exact List.cons_ne_nil _ _ h.eq_nil
      exact Or.inr ⟨rfl, Aggregator.gathered_of_ne_nil hne⟩

omit [Regex.Dialect] in
theorem sameDemands_gathered {l₁ l₂ : List MethodRequest} (h : l₁.Perm l₂) (target : String)
    (a : Authentication) :
    SameDemands a (Aggregator.gathered target (some a) l₁)
      (Aggregator.gathered target (some a) l₂) := by
  rcases gathered_of_perm h target (some a) with ⟨h₁, h₂⟩ | ⟨h₁, h₂⟩
  · rw [h₁, h₂]
    trivial
  · rw [h₁, h₂]
    exact ⟨rfl, h, rfl, rfl⟩

/-- What is owed does not depend on the order in which requests were gathered. -/
theorem owed_gathered (hs : s.Built) {l₁ l₂ : List MethodRequest} (h : l₁.Perm l₂) (target : String)
    (hsound : ∀ t, Aggregator.gathered target (some a) l₁ = some t → t.Sound s.registry) :
    s.strategy.owed a (Aggregator.gathered target (some a) l₁) =
      s.strategy.owed a (Aggregator.gathered target (some a) l₂) := by
  rcases gathered_of_perm h target (some a) with ⟨h₁, h₂⟩ | ⟨h₁, h₂⟩
  · rw [h₁, h₂]
  · have hfirst : Transaction.Sound s.registry ⟨target, some a, l₁⟩ := hsound _ h₁
    rw [h₁, h₂, hs.strategy_eq]
    exact Ranking.owed_congr hfirst h a

/-- The run of a session decides on everything that is proposed. -/
theorem immediate_eq_evaluate (hs : s.Built) {l : List MethodRequest}
    (hsession : s.sessionOf q = some a)
    (hl : answer (s.aggregator.proposals (s.context q (some a)) s.aggregator.kinds) .empty = .ok l)
    (c : PatternCache) :
    s.immediate q c =
      succeeded (s.evaluate (.start (Aggregator.gathered q.serviceId (some a) l) (some a)) q) := by
  unfold immediate
  rw [begin_of_proposals hs hsession hl]
  rfl

theorem proposals_of_immediate (hs : s.Built) (hsession : s.sessionOf q = some a) {d : Decision}
    (h : s.immediate q c = .ok (d, y)) :
    ∃ l, answer (s.aggregator.proposals (s.context q (some a)) s.aggregator.kinds) .empty =
      .ok l := by
  cases hbegin : answer (s.begin q) c with
  | error e =>
      unfold immediate at h
      rw [hbegin] at h
      cases h
  | ok begun => exact proposals_of_begin hs hsession hbegin

omit [Regex.Dialect] in
/-- A decision that succeeds, in an attempt of which nothing is chained yet. -/
theorem evaluate_eq_owed {t : Option Transaction} {owed : Option MethodRequest}
    (h : s.strategy.decide (escalationInput (.start t (some a)) q) = .ok (Decision.ofOwed owed)) :
    ∃ y, s.evaluate (.start t (some a)) q = (.ok (Decision.ofOwed owed), y) ∧ y.transaction = t ∧
      ∀ r, owed = some r → y.selected = some r ∧ y.chain = ⟨[], [a]⟩ := by
  cases owed with
  | none => exact ⟨_, evaluate_of_continue h, rfl, by simp⟩
  | some r =>
      refine ⟨_, evaluate_of_require h, rfl, fun r' hr' => ?_⟩
      cases hr'
      exact ⟨rfl, rfl⟩

/-- The ends of the two runs: both fail, or both require what is owed of the same transaction. -/
inductive Agree (a : Authentication) : Except ServiceError (Outcome × Attempt) →
    Except ServiceError (Decision × Attempt) → Prop
  | failed (e e' : ServiceError) : Agree a (.error e) (.error e')
  | ended (owed : Option MethodRequest) (x y : Attempt) :
      SameDemands a x.transaction y.transaction →
      (∀ r, owed = some r → x.selected = some r ∧ y.selected = some r ∧
        x.chain = ⟨[], [a]⟩ ∧ y.chain = ⟨[], [a]⟩) →
      Agree a (.ok (.ofOwed owed, x)) (.ok (.ofOwed owed, y))

omit [Regex.Dialect] in
/-- Settling and deciding agree where the same is owed. -/
theorem agree_of_owed {t : Option Transaction} (hselected : x.selected = none)
    (hchain : x.chain = ⟨[], [a]⟩) (hsame : SameDemands a x.transaction t)
    (howed : s.strategy.owed a x.transaction = s.strategy.owed a t)
    (hdecide : s.strategy.decide (escalationInput (.start t (some a)) q) =
      (s.strategy.owed a t).map Decision.ofOwed) :
    Agree a (succeeded (s.settle x)) (succeeded (s.evaluate (.start t (some a)) q)) := by
  have hsettle := settle_eq_owed (s := s) hselected hchain
  rw [howed] at hsettle
  cases h : s.strategy.owed a t with
  | error e =>
      rw [h] at hsettle hdecide
      rw [evaluate_of_error hdecide]
      have hfailed : succeeded (s.settle x) = .error e := by
        rw [show s.settle x = (.error e, (s.settle x).2) from Prod.ext hsettle rfl]
        rfl
      rw [hfailed]
      exact .failed e e
  | ok owed =>
      rw [h] at hsettle hdecide
      obtain ⟨y, hy, htransaction, hrequired⟩ := evaluate_eq_owed hdecide
      have hended : succeeded (s.settle x) = .ok (.ofOwed owed, (s.settle x).2) := by
        rw [show s.settle x = (.ok (.ofOwed owed), (s.settle x).2) from Prod.ext hsettle rfl]
        rfl
      rw [hended, hy]
      refine .ended owed _ y ?_ fun r hr => ?_
      · rw [transaction_settle, htransaction]
        exact hsame
      · subst hr
        obtain ⟨hyselected, hychain⟩ := hrequired r rfl
        exact ⟨selected_of_settle hsettle, hyselected, (s.chain_settle x).trans hchain, hychain⟩

/-- Both runs need what every resolver proposes. -/
theorem agree_of_failed (hs : s.Built) (hq : q.session? = none) {q' : LoginRequest}
    (hsession : s.sessionOf q' = some a)
    (hsame : s.aggregator.proposals (s.context q' (some a)) s.aggregator.kinds =
      s.aggregator.proposals (s.context q (some a)) s.aggregator.kinds)
    {e : ServiceError}
    (hl : answer (s.aggregator.proposals (s.context q (some a)) s.aggregator.kinds) .empty =
      .error e) : Agree a (s.deferred q a c c') (s.immediate q' c'') := by
  have hleft : ∃ e, s.deferred q a c c' = .error e := by
    cases hrun : s.deferred q a c c' with
    | error e => exact ⟨e, rfl⟩
    | ok result =>
        obtain ⟨early, late, h⟩ := proposed_of_deferred hs hq hrun
        obtain ⟨l, hok⟩ := Aggregator.exists_proposals_of_filter _ h.late h.early
        rw [hl] at hok
        cases hok
  have hright : ∃ e, s.immediate q' c'' = .error e := by
    cases hrun : s.immediate q' c'' with
    | error e => exact ⟨e, rfl⟩
    | ok result =>
        obtain ⟨l, hok⟩ := proposals_of_immediate hs hsession hrun
        rw [hsame, hl] at hok
        cases hok
  obtain ⟨e, he⟩ := hleft
  obtain ⟨e', he'⟩ := hright
  rw [he, he']
  exact .failed e e'

theorem runs_agree (hs : s.Built) (hq : q.session? = none) (hrenew : q.renew = false) {id : String}
    (hid : Text.blank id = false) (hbound : s.sessions id = some a) (c c' c'' : PatternCache)
    (hblank : ∀ x t r, answer (s.begin { q with sessionId := some id }) c'' = .ok x →
      x.transaction = some t → s.registry.IsStrongest t.requests r →
        Text.blank r.method = false) :
    Agree a (s.deferred q a c c') (s.immediate { q with sessionId := some id } c'') := by
  have hid' : ({ q with sessionId := some id } : LoginRequest).session? = some id := by
    simp [LoginRequest.session?, Text.nonblank?, hid]
  have hsession : s.sessionOf { q with sessionId := some id } = some a := by
    simp [sessionOf, hid', hbound]
  -- no resolver looks at the id of a session
  have hsame : ∀ kinds, s.aggregator.proposals (s.context { q with sessionId := some id } (some a))
      kinds = s.aggregator.proposals (s.context q (some a)) kinds :=
    fun kinds => s.aggregator.proposals_withSession (s.context q (some a)) (some id) kinds
  cases hl : answer (s.aggregator.proposals (s.context q (some a)) s.aggregator.kinds) .empty with
  | error e => exact agree_of_failed hs hq hsession (hsame _) hl
  | ok l =>
      obtain ⟨principal, early, hprincipal, hearly, hperm⟩ :=
        Aggregator.proposals_perm_filter (·.readsPrincipal) hl
      obtain ⟨-, hlate⟩ := Aggregator.resolvePrincipal_of_proposals hs.sources_nodup hprincipal
      rw [hlate] at hprincipal hperm
      have hproposed : s.Proposed q a early principal.head? := ⟨hearly, hprincipal⟩
      have hgathered : l.Perm (early ++ principal.head?.toList) :=
        hperm.trans List.perm_append_comm
      obtain ⟨x, hselected, hchain, htransaction, hdeferred⟩ :=
        deferred_eq_settle hs hq hproposed c c'
      have hall := hl
      rw [← hsame] at hall
      have hbegin := begin_of_proposals hs hsession hall c''
      have hsound := (settled_begin hbegin).sound
      rw [hdeferred, immediate_eq_evaluate hs hsession hall c'']
      refine agree_of_owed hselected hchain ?_ ?_ ?_
      · rw [htransaction]
        exact sameDemands_gathered hgathered.symm q.serviceId a
      · rw [htransaction]
        exact (owed_gathered hs hgathered q.serviceId hsound).symm
      · refine Strategy.decide_eq_owed ?_ rfl hrenew fun t r ht hhigh => ?_
        · simp [escalationInput, hid']
        · rw [hs.strategy_eq] at hhigh
          exact hblank _ t r hbegin ht (Registry.isStrongest_of_strongest hhigh).2

/-- A login whose decision is deferred to the primary step fails exactly when the one does whose
session brings the same authentication.  Where they do not fail, they have the same transaction but
for the order of its requests, and they require the same, of the same chain and with the same
selection. -/
theorem deferred_agrees_with_immediate (hs : s.Built) (hq : q.session? = none)
    (hrenew : q.renew = false) {id : String} (hid : Text.blank id = false)
    (hbound : s.sessions id = some a) (c c' c'' : PatternCache)
    (hblank : ∀ x t r, answer (s.begin { q with sessionId := some id }) c'' = .ok x →
      x.transaction = some t → s.registry.IsStrongest t.requests r →
        Text.blank r.method = false) :
    ((∃ e, s.deferred q a c c' = .error e) ↔
      ∃ e, s.immediate { q with sessionId := some id } c'' = .error e) ∧
    ∀ o x d y, s.deferred q a c c' = .ok (o, x) →
      s.immediate { q with sessionId := some id } c'' = .ok (d, y) →
      SameDemands a x.transaction y.transaction ∧
      (∀ r, o = .requireMethod r ↔ d = .requireMethod r) ∧
      (o = .completed ↔ d = .continueNormally) ∧
      ∀ r, d = .requireMethod r → x.selected = some r ∧ y.selected = some r ∧
        x.chain = ⟨[], [a]⟩ ∧ y.chain = ⟨[], [a]⟩ := by
  have hagree := runs_agree hs hq hrenew hid hbound c c' c'' hblank
  generalize s.deferred q a c c' = left at hagree ⊢
  generalize s.immediate { q with sessionId := some id } c'' = right at hagree ⊢
  cases hagree with
  | failed e e' => exact ⟨iff_of_true ⟨e, rfl⟩ ⟨e', rfl⟩, fun o x d y h => by cases h⟩
  | ended owed x y hsame hrequired =>
      refine ⟨iff_of_false (by simp) (by simp), fun o x' d y' hleft hright => ?_⟩
      cases hleft
      cases hright
      refine ⟨hsame, ?_⟩
      cases owed with
      | none => simp [Outcome.ofOwed, Decision.ofOwed]
      | some r =>
          obtain ⟨hx, hy, hxchain, hychain⟩ := hrequired r rfl
          refine ⟨by simp [Outcome.ofOwed, Decision.ofOwed],
            by simp [Outcome.ofOwed, Decision.ofOwed], fun r' hr' => ?_⟩
          cases hr'
          exact ⟨hx, hy, hxchain, hychain⟩

end

/-- The principal demands the strongest method, and the login names a weaker one. -/
theorem deferred_agrees_on_duo :
    ∃ x y, (smallWithSession (demandedOf "duo")).deferred (namedRequest "otp" none)
        (demandedOf "duo") .empty .empty =
          .ok (.requireMethod ⟨"duo", "other", .principalAttribute⟩, x) ∧
      (smallWithSession (demandedOf "duo")).immediate (namedRequest "otp" (some "TGT-1")) .empty =
          .ok (.requireMethod ⟨"duo", "other", .principalAttribute⟩, y) ∧
      SameDemands (demandedOf "duo") x.transaction y.transaction ∧ x.selected = y.selected ∧
      x.chain = y.chain := by
  have hagree := deferred_agrees_with_immediate (smallWithSession_built (demandedOf "duo"))
    (q := namedRequest "otp" none) rfl rfl (show Text.blank "TGT-1" = false by decide) rfl
    .empty .empty .empty (by
      intro x t r hx ht hr
      cases hx
      cases ht
      have hmem : r ∈ [⟨"otp", "other", .requestParam⟩, ⟨"duo", "other", .principalAttribute⟩] :=
        hr.mem
      rcases List.mem_pair.1 hmem with rfl | rfl
      · decide
      · decide)
  obtain ⟨hsame, -, -, hrequired⟩ := hagree.2 _ _ _ _ rfl rfl
  obtain ⟨hx, hy, hxchain, hychain⟩ := hrequired _ rfl
  exact ⟨_, _, rfl, rfl, hsame, hx.trans hy.symm, hxchain.trans hychain.symm⟩

end Service

end StepUp
