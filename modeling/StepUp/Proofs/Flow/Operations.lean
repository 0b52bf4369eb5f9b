import StepUp.Engine.Service
import StepUp.Proofs.Composite.Append
import StepUp.Proofs.Composite.Methods
import StepUp.Proofs.Resolution.Proposals

/-!
# What the operations do

One statement for each operation of a service, and for each part of one that is used on its own.
They say what the operation answers and which attempt it leaves, so that what follows need not look
at the operations again.

Only the primary step puts a transaction in the place of another, and only selecting writes the
selection.  So the statements are made field by field: the transaction, the selection and the chain
of the attempt that an operation leaves, from those of the attempt it finds.
-/

namespace StepUp

open Cached

/-! ## The decision -/

namespace Strategy

variable {k : Strategy} {input : EscalationInput} {r : MethodRequest}

/-- Only the request to honor is required, and only of a session that does not satisfy it. -/
theorem of_decide_eq_requireMethod (h : k.decide input = .ok (.requireMethod r)) :
    ∃ t, input.transaction = some t ∧ k.highest t = .ok (some r) ∧ input.hasSession = true ∧
      Text.blank r.method = false ∧ ∀ a, input.session = some a →
        k.covers a.satisfiedMethods r.method = .ok false ∧ input.renew = false := by
  unfold decide at h
  split at h
  next => cases h
  next t ht =>
      refine ⟨t, ht, ?_⟩
      split at h
      next => cases h
      next => cases h
      next best hhigh =>
          split at h
          next => cases h
          next hdue =>
              -- a session came with the request, and the method has a name
              simp only [Bool.or_eq_true, Bool.not_eq_true', not_or, Bool.not_eq_true,
                Bool.not_eq_false] at hdue
              split at h
              next hnone =>
                  cases h
                  refine ⟨hhigh, hdue.1, hdue.2, fun a ha => ?_⟩
                  rw [hnone] at ha
                  cases ha
              next session hsession =>
                  split at h
                  next => cases h
                  next covered hcov =>
                      have hdecided := Except.ok.inj h
                      split at hdecided
                      next => cases hdecided
                      next hweak =>
                          cases hdecided
                          simp only [Bool.or_eq_true, not_or, Bool.not_eq_true] at hweak
                          refine ⟨hhigh, hdue.1, hdue.2, fun a ha => ?_⟩
                          rw [hsession] at ha
                          cases ha
                          rw [hcov, hweak.1]
                          exact ⟨rfl, hweak.2⟩

/-- Where nothing is known of the session, the request to honor is required as it is. -/
theorem decide_of_unknown_session (hsession : input.session = none) {t : Transaction}
    (ht : input.transaction = some t) (hhigh : k.highest t = .ok (some r)) :
    k.decide input = .ok (if input.hasSession && !Text.blank r.method then .requireMethod r
      else .continueNormally) := by
  unfold decide
  simp only [ht, hhigh, hsession]
  cases input.hasSession <;> cases Text.blank r.method <;> rfl

end Strategy

namespace Service

variable {s : Service} {x y : Attempt} {q : LoginRequest} {r : MethodRequest}

section Resolving

variable [Regex.Dialect]

/-! ## Beginning -/

theorem begin_eq_ok {c : PatternCache} (h : answer (s.begin q) c = .ok x) :
    ∃ t, answer (s.aggregator.aggregate (s.context q (s.sessionOf q))) c = .ok t ∧
      x = .start t (s.sessionOf q) := by
  obtain ⟨t, ht, hx⟩ := answer_bind_eq_ok.1 h
  exact ⟨t, ht, (Except.ok.inj hx).symm⟩

/-- What an attempt has in the beginning: the requests of all resolvers and the session. -/
theorem of_begin {c : PatternCache} (h : answer (s.begin q) c = .ok x) :
    answer (s.aggregator.aggregate (s.context q (s.sessionOf q))) c = .ok x.transaction ∧
      x.session = s.sessionOf q ∧ x.selected = none ∧ x.chain = .empty := by
  obtain ⟨t, ht, rfl⟩ := begin_eq_ok h
  exact ⟨ht, rfl, rfl, rfl⟩

/-- Where no two resolvers share a source, an attempt begins with all that they propose. -/
theorem gathered_of_begin (hsources : (s.aggregator.kinds.map (·.source)).Nodup)
    {c : PatternCache} (h : answer (s.begin q) c = .ok x) :
    ∃ l, answer (s.aggregator.proposals (s.context q (s.sessionOf q)) s.aggregator.kinds) .empty =
        .ok l ∧
      x.transaction = Aggregator.gathered q.serviceId (s.sessionOf q) l := by
  obtain ⟨haggregate, -⟩ := of_begin h
  rw [Aggregator.answer_aggregate hsources,
    Aggregator.steady_proposals _ _ _ c .empty] at haggregate
  cases hl : answer (s.aggregator.proposals (s.context q (s.sessionOf q)) s.aggregator.kinds)
      .empty with
  | error e =>
      rw [hl] at haggregate
      cases haggregate
  | ok l =>
      rw [hl] at haggregate
      exact ⟨l, rfl, (Except.ok.inj haggregate).symm⟩

/-! ## The demand on the principal -/

theorem answer_principalDemand (s : Service) (x : Attempt) (q : LoginRequest) (a : Authentication)
    (c : PatternCache) :
    answer (s.principalDemand x q a) c =
      if x.selected.isSome then .ok none
      else answer (s.aggregator.resolvePrincipal (s.context q (some a))) c := by
  unfold principalDemand
  split <;> rfl

/-- A request is looked for in the principal only while nothing is selected, and one that is found
is registered. -/
theorem principalDemand_eq_some {a : Authentication} {c : PatternCache}
    (h : answer (s.principalDemand x q a) c = .ok (some r)) :
    x.selected = none ∧ s.registry.contains r.method = true := by
  rw [answer_principalDemand] at h
  split at h
  next => cases h
  next hselected => exact ⟨by simpa using hselected, Aggregator.contains_of_resolvePrincipal h⟩

/-- While nothing is selected the resolvers that read the principal propose what is demanded. -/
theorem principalDemand_eq_ok_iff (hsources : (s.aggregator.kinds.map (·.source)).Nodup)
    (hnone : x.selected = none) {a : Authentication} {found : Option MethodRequest}
    {c : PatternCache} :
    answer (s.principalDemand x q a) c = .ok found ↔
      answer (s.aggregator.proposals (s.context q (some a))
        (s.aggregator.kinds.filter (·.readsPrincipal))) .empty = .ok found.toList := by
  rw [answer_principalDemand, if_neg (by simp [hnone]),
    Aggregator.steady_resolvePrincipal _ _ c .empty]
  exact Aggregator.resolvePrincipal_eq_ok_iff hsources

end Resolving

/-! ## Deciding -/

/-- The chain of an attempt that has to step up: it begins with the session, if there is one. -/
def seededChain (x : Attempt) : Chain :=
  match x.chain.isEmpty, x.session with
  | true, some a => { x.chain with authentications := [a] }
  | _, _ => x.chain

/-- The attempt with a decision recorded in it. -/
def withDecision (x : Attempt) : Decision → Attempt
  | .continueNormally => { x with state := .continueNormally }
  | .requireMethod r => { x.select r with chain := seededChain x }

theorem evaluate_of_error {e : ServiceError}
    (h : s.strategy.decide (escalationInput x q) = .error e) : s.evaluate x q = (.error e, x) := by
  simp [evaluate, h]

theorem evaluate_of_continue
    (h : s.strategy.decide (escalationInput x q) = .ok .continueNormally) :
    s.evaluate x q = (.ok .continueNormally, { x with state := .continueNormally }) := by
  simp [evaluate, h]

theorem evaluate_of_require (h : s.strategy.decide (escalationInput x q) = .ok (.requireMethod r)) :
    s.evaluate x q = (.ok (.requireMethod r), { x.select r with chain := seededChain x }) := by
  unfold evaluate seededChain Attempt.select
  rw [h]
  dsimp only
  cases hempty : x.chain.isEmpty with
  | false => rfl
  | true =>
      cases x.session with
      | none => rfl
      | some a => simp only [Chain.append_of_isEmpty hempty]

/-- Under any ranking an evaluation fails with the decision, and otherwise records it. -/
theorem evaluate_eq (s : Service) (x : Attempt) (q : LoginRequest) :
    s.evaluate x q = match s.strategy.decide (escalationInput x q) with
      | .error e => (.error e, x)
      | .ok d => (.ok d, withDecision x d) := by
  cases hdecide : s.strategy.decide (escalationInput x q) with
  | error e => exact evaluate_of_error hdecide
  | ok d =>
      cases d with
      | continueNormally => exact evaluate_of_continue hdecide
      | requireMethod r => exact evaluate_of_require hdecide

theorem evaluate_eq_ok_iff {d : Decision} : s.evaluate x q = (.ok d, y) ↔
    s.strategy.decide (escalationInput x q) = .ok d ∧ y = withDecision x d := by
  rw [evaluate_eq]
  cases s.strategy.decide (escalationInput x q) with
  | error e => simp
  | ok d' =>
      simp only [Prod.mk.injEq, Except.ok.injEq]
      exact ⟨fun ⟨hd, hy⟩ => ⟨hd, hd ▸ hy.symm⟩, fun ⟨hd, hy⟩ => ⟨hd, hd ▸ hy.symm⟩⟩

theorem evaluate_eq_error_iff {e : ServiceError} : s.evaluate x q = (.error e, y) ↔
    s.strategy.decide (escalationInput x q) = .error e ∧ y = x := by
  rw [evaluate_eq]
  cases s.strategy.decide (escalationInput x q) <;> simp [eq_comm (a := y)]

/-! ## The primary step -/

/-- A transaction with its primary authentication set, unless there is one. -/
def primed (t : Transaction) (a : Authentication) : Transaction :=
  if t.primary.isSome then t else t.setPrimary a

@[simp] theorem primed_requests (t : Transaction) (a : Authentication) :
    (primed t a).requests = t.requests := by
  unfold primed
  split <;> rfl

@[simp] theorem primed_target (t : Transaction) (a : Authentication) :
    (primed t a).target = t.target := by
  unfold primed
  split <;> rfl

section Installed

variable (x : Attempt) (staged : Option Transaction) (a : Authentication)

@[simp] theorem installed_transaction :
    (installed x staged a).transaction = (staged <|> x.transaction).map (primed · a) := by
  unfold installed primed
  cases staged with
  | some t => cases h : t.primary <;> simp [Attempt.setTransaction, h]
  | none =>
      cases ht : x.transaction with
      | none => simp [ht]
      | some t => cases h : t.primary <;> simp [ht, h]

@[simp] theorem installed_selected : (installed x staged a).selected = x.selected := by
  unfold installed
  cases staged <;> (dsimp only; repeat' split) <;> rfl

@[simp] theorem installed_session : (installed x staged a).session = x.session := by
  unfold installed
  cases staged <;> (dsimp only; repeat' split) <;> rfl

@[simp] theorem installed_chain : (installed x staged a).chain = x.chain := by
  unfold installed
  cases staged <;> (dsimp only; repeat' split) <;> rfl

/-- A transaction that is installed begins the evaluation of an attempt that had none. -/
theorem state_installed : (installed x staged a).state =
    if staged.isSome ∧ x.state = .noTransaction then .evaluating else x.state := by
  unfold installed
  cases staged <;> (dsimp only [Attempt.setTransaction]; repeat' split) <;> simp_all

theorem installed_state : (installed x staged a).state = x.state ∨
    x.state = .noTransaction ∧ (installed x staged a).state = .evaluating := by
  rw [state_installed]
  split
  next h => exact Or.inr ⟨h.2, rfl⟩
  next => exact Or.inl rfl

end Installed

/-- The transaction after the request that was found for the principal, if any, is staged. -/
def stagedWith (current : Option Transaction) : Option MethodRequest →
    Except FlowError (Option Transaction)
  | none => .ok current
  | some r => (stage current r).map some

/-- Staging adds the request found to the transaction that is there. -/
theorem stagedWith_some_some (t : Transaction) (r : MethodRequest) :
    stagedWith (some t) (some r) = (t.add r).map some :=
  rfl

theorem stagedWith_some_eq_ok {current : Option Transaction} {u : Transaction}
    (h : stagedWith current (some r) = .ok (some u)) :
    current = none ∧ u = .ofRequest r ∨ ∃ t, current = some t ∧ t.add r = .ok u := by
  cases current with
  | none =>
      cases h
      exact Or.inl ⟨rfl, rfl⟩
  | some t =>
      rw [stagedWith_some_some] at h
      cases hadd : t.add r with
      | error e =>
          rw [hadd] at h
          cases h
      | ok v =>
          rw [hadd] at h
          cases h
          exact Or.inr ⟨t, rfl, hadd⟩

/-- Staging adds the request that was found, and nothing else. -/
theorem requests_of_stagedWith {t u : Transaction} {found : Option MethodRequest}
    (h : stagedWith (some t) found = .ok (some u)) : u.requests = t.requests ++ found.toList := by
  cases found with
  | none =>
      cases h
      simp
  | some r =>
      rcases stagedWith_some_eq_ok h with ⟨hnone, -⟩ | ⟨v, hv, hadd⟩
      · cases hnone
      · cases hv
        obtain ⟨-, -, rfl⟩ := Transaction.add_eq_ok_iff.1 hadd
        rfl

theorem chainPrimary_eq_installed {found : Option MethodRequest} {a : Authentication}
    {credential : Option Credential} (h : chainPrimary x found a credential = .ok y) :
    ∃ staged chain, y = installed { x with chain } staged a := by
  unfold chainPrimary at h
  split at h
  next => cases h
  next staged hstaged =>
      split at h
      next => cases h
      next chain happ => exact ⟨staged, chain, (Except.ok.inj h).symm⟩

theorem chainPrimary_eq_ok {found : Option MethodRequest} {a : Authentication}
    {credential : Option Credential} (h : chainPrimary x found a credential = .ok y) :
    ∃ t, stagedWith x.transaction found = .ok t ∧
      x.chain.append a (credential.map (primarySource, ·)) = .ok y.chain ∧
      y.transaction = t.map (primed · a) ∧ y.selected = x.selected := by
  unfold chainPrimary at h
  cases found with
  | none =>
      simp only [Option.mapM_none, pure, Except.pure] at h
      cases happ : x.chain.append a (credential.map (primarySource, ·)) with
      | error e => simp [happ] at h
      | ok chain =>
          simp only [happ, Except.ok.injEq] at h
          subst h
          exact ⟨x.transaction, rfl, by simp, by simp, by simp⟩
  | some r =>
      simp only [Option.mapM_some] at h
      cases hstage : stage x.transaction r with
      | error e => simp [hstage] at h
      | ok t =>
          cases happ : x.chain.append a (credential.map (primarySource, ·)) with
          | error e => simp [hstage, happ] at h
          | ok chain =>
              simp only [hstage, happ] at h
              cases h
              exact ⟨some t, by simp [stagedWith, hstage, Except.map], by simp, by simp, by simp⟩

/-- Nothing is chained before the request found has its place. -/
theorem chainPrimary_eq_error_iff {found : Option MethodRequest} {a : Authentication}
    {credential : Option Credential} {f : FlowError} :
    chainPrimary x found a credential = .error f ↔ stagedWith x.transaction found = .error f ∨
      (∃ t, stagedWith x.transaction found = .ok t) ∧
        x.chain.append a (credential.map (primarySource, ·)) = .error f := by
  unfold chainPrimary
  cases found with
  | none =>
      simp only [Option.mapM_none, pure, Except.pure, stagedWith]
      cases x.chain.append a (credential.map (primarySource, ·)) <;> simp
  | some r =>
      simp only [Option.mapM_some, stagedWith]
      cases stage x.transaction r with
      | error e => simp [Except.map]
      | ok t => cases x.chain.append a (credential.map (primarySource, ·)) <;> simp [Except.map]

/-! ## Outcomes -/

theorem outcome_eq_completed_iff :
    s.outcome x = .ok .completed ↔ ∀ r, x.selected = some r → s.covers x.chain r = .ok true := by
  unfold outcome
  cases x.selected with
  | none => simp
  | some r =>
      simp only [Option.some.injEq, forall_eq']
      cases s.covers x.chain r with
      | error e => simp
      | ok covered => cases covered <;> simp

theorem outcome_eq_requireMethod_iff : s.outcome x = .ok (.requireMethod r) ↔
    x.selected = some r ∧ s.covers x.chain r = .ok false := by
  unfold outcome
  cases x.selected with
  | none => simp
  | some r' =>
      simp only [Option.some.injEq]
      cases hcov : s.covers x.chain r' with
      | error e =>
          refine iff_of_false (by simp) ?_
          rintro ⟨rfl, h⟩
          rw [hcov] at h
          cases h
      | ok covered =>
          cases covered with
          | true =>
              refine iff_of_false (by simp) ?_
              rintro ⟨rfl, h⟩
              rw [hcov] at h
              cases h
          | false =>
              constructor
              · intro h
                cases h
                exact ⟨rfl, hcov⟩
              · rintro ⟨rfl, -⟩
                rfl

theorem outcome_fails_iff {e : ServiceError} :
    s.outcome x = .error e ↔ ∃ r, x.selected = some r ∧ s.covers x.chain r = .error e := by
  unfold outcome
  cases x.selected with
  | none => simp
  | some r =>
      simp only [Option.some.injEq, exists_eq_left']
      cases s.covers x.chain r <;> simp

theorem outcome_ok_iff :
    (∃ o, s.outcome x = .ok o) ↔
      ∀ r, x.selected = some r → ∃ covered, s.covers x.chain r = .ok covered := by
  unfold outcome
  cases x.selected with
  | none => simp
  | some r =>
      simp only [Option.some.injEq, forall_eq']
      cases s.covers x.chain r <;> simp

/-- Selecting is left out where a request is selected already. -/
theorem selectStrongest_of_selected (h : x.selected = some r) : s.selectStrongest x = .ok x := by
  simp [selectStrongest, h]

theorem selectStrongest_of_no_transaction (h : x.transaction = none) :
    s.selectStrongest x = .ok x := by
  unfold selectStrongest
  rw [h]
  cases x.selected <;> rfl

/-- Where nothing is selected, the request that the ranking honors becomes the selection. -/
theorem selectStrongest_of_highest {t : Transaction} (hselected : x.selected = none)
    (ht : x.transaction = some t) (hhigh : s.strategy.highest t = .ok (some r)) :
    s.selectStrongest x = .ok (x.select r) := by
  simp [selectStrongest, hselected, ht, hhigh]

theorem selectStrongest_ok_iff : (∃ y, s.selectStrongest x = .ok y) ↔
    (x.selected = none → ∀ t, x.transaction = some t →
      ∃ best, s.strategy.highest t = .ok best) := by
  unfold selectStrongest
  split
  next t hselected ht =>
      simp only [hselected, ht, forall_const, Option.some.injEq, forall_eq']
      cases s.strategy.highest t with
      | error e => simp
      | ok best => cases best <;> simp
  next hother => exact iff_of_true ⟨x, rfl⟩ fun hnone t ht => (hother t hnone ht).elim

theorem selectStrongest_fails_iff {e : ServiceError} : s.selectStrongest x = .error e ↔
    x.selected = none ∧ ∃ t, x.transaction = some t ∧ s.strategy.highest t = .error e := by
  unfold selectStrongest
  split
  next t hselected ht =>
      simp only [hselected, ht, true_and, Option.some.injEq, exists_eq_left']
      cases s.strategy.highest t with
      | error e => simp
      | ok best => cases best <;> simp
  next hother =>
      refine iff_of_false (by simp) ?_
      rintro ⟨hnone, t, ht, -⟩
      exact hother t hnone ht

/-- An attempt gets a selection only where it had none, namely the request of its transaction that
the ranking honors, and nothing else of it changes. -/
theorem selectStrongest_eq_ok (h : s.selectStrongest x = .ok y) :
    y = x ∨ x.selected = none ∧ ∃ t r, x.transaction = some t ∧
      s.strategy.highest t = .ok (some r) ∧ y = x.select r := by
  unfold selectStrongest at h
  split at h
  next t hselected ht =>
      split at h
      next => cases h
      next => exact Or.inl (Except.ok.inj h).symm
      next r hr => exact Or.inr ⟨hselected, t, r, ht, hr, (Except.ok.inj h).symm⟩
  next => exact Or.inl (Except.ok.inj h).symm

/-- Selecting changes neither the transaction nor the chain. -/
theorem frame_of_selectStrongest (h : s.selectStrongest x = .ok y) :
    y.transaction = x.transaction ∧ y.chain = x.chain := by
  rcases selectStrongest_eq_ok h with rfl | ⟨-, t, r, -, -, rfl⟩
  · exact ⟨rfl, rfl⟩
  · exact ⟨rfl, rfl⟩

theorem chain_settle (s : Service) (x : Attempt) : (s.settle x).2.chain = x.chain := by
  unfold settle
  cases h : s.selectStrongest x with
  | error e => rfl
  | ok y => exact (frame_of_selectStrongest h).2

theorem transaction_settle (s : Service) (x : Attempt) :
    (s.settle x).2.transaction = x.transaction := by
  unfold settle
  cases h : s.selectStrongest x with
  | error e => rfl
  | ok y => exact (frame_of_selectStrongest h).1

theorem session_settle (s : Service) (x : Attempt) : (s.settle x).2.session = x.session := by
  unfold settle
  cases h : s.selectStrongest x with
  | error e => rfl
  | ok y =>
      rcases selectStrongest_eq_ok h with rfl | ⟨-, t, r, -, -, rfl⟩
      · rfl
      · rfl

/-- Settling keeps the selection, or makes the one that the ranking honors. -/
theorem selected_settle (s : Service) (x : Attempt) :
    (s.settle x).2.selected = x.selected ∨ ∃ t r, x.transaction = some t ∧
      s.strategy.highest t = .ok (some r) ∧ (s.settle x).2.selected = some r := by
  unfold settle
  cases h : s.selectStrongest x with
  | error e => exact Or.inl rfl
  | ok y =>
      rcases selectStrongest_eq_ok h with rfl | ⟨-, t, r, ht, hhigh, rfl⟩
      · exact Or.inl rfl
      · exact Or.inr ⟨t, r, ht, hhigh, rfl⟩

theorem settle_of_selectStrongest (h : s.selectStrongest x = .ok y) :
    s.settle x = (s.outcome y, y) := by
  simp [settle, h]

/-! ## Steps -/

section Resolving

variable [Regex.Dialect]

/-- The primary step: a principal that cannot be looked at leaves the attempt as it is. -/
theorem completePrimary_eq (s : Service) (x : Attempt) (q : LoginRequest) (a : Authentication)
    (credential : Option Credential) (c : PatternCache) :
    (s.completePrimary x q a credential c).1 =
      match answer (s.principalDemand x q a) c with
      | .error e => (.error e, x)
      | .ok found => s.primaryStep x found a credential := by
  unfold completePrimary answer
  rw [run_bind, show (s.principalDemand x q a) c = (s.principalDemand x q a).run c from rfl]
  cases ((s.principalDemand x q a).run c).1 <;> rfl

theorem completePrimary_eq_ok {a : Authentication} {credential : Option Credential}
    {c : PatternCache} {o : Outcome}
    (h : (s.completePrimary x q a credential c).1 = (.ok o, y)) :
    ∃ found chained, answer (s.principalDemand x q a) c = .ok found ∧
      chainPrimary x found a credential = .ok chained ∧ s.selectStrongest chained = .ok y ∧
      s.outcome y = .ok o := by
  rw [completePrimary_eq] at h
  cases hdemand : answer (s.principalDemand x q a) c with
  | error e =>
      rw [hdemand] at h
      cases h
  | ok found =>
      rw [hdemand] at h
      unfold primaryStep at h
      cases hchained : chainPrimary x found a credential with
      | error e =>
          simp only [hchained] at h
          cases h
      | ok chained =>
          simp only [hchained, settle] at h
          cases hselect : s.selectStrongest chained with
          | error e =>
              rw [hselect] at h
              cases h
          | ok z =>
              rw [hselect] at h
              obtain ⟨hout, rfl⟩ := Prod.mk.inj h
              exact ⟨found, chained, rfl, hchained, hselect, hout⟩

end Resolving

theorem completeMethod_of_not_selected (h : x.selected = none) (a : Authentication)
    (credential : Option Credential) :
    s.completeMethod x a credential = (.error (.rejected .noMethodSelected), x) := by
  simp [completeMethod, h]

/-- An authentication after the method it completed was recorded in it. -/
def recorded (a : Authentication) (method : String) : Authentication :=
  a.setAttribute authnMethodAttribute (.str method)

/-- The step of the selected method either leaves the attempt as it is, or adds to the chain and
nothing else. -/
theorem completeMethod_of_selected (h : x.selected = some r) (a : Authentication)
    (credential : Option Credential) :
    s.completeMethod x a credential =
      match x.chain.append (recorded a r.method) (credential.map (r.method, ·)) with
      | .error e => (.error (.rejected e), x)
      | .ok chain => (s.outcome { x with chain }, { x with chain }) := by
  obtain ⟨state, transaction, session, selected, chain⟩ := x
  cases h
  rfl

/-! ## Finishing -/

theorem finish_of_isEmpty (h : x.chain.isEmpty = true) (now : Time.Timestamp) :
    s.finish x now = .error (.rejected .emptyChain) := by
  have hnil : x.chain.authentications = [] := by simpa [Chain.isEmpty] using h
  simp [finish, Chain.compose, hnil]

/-- What was chained finishes with the satisfied methods of the chain, unless the selected method is
not covered; then its name is looked for among them, and a blank name is not. -/
theorem finish_of_chained (s : Service) (h : x.chain.isEmpty = false) (now : Time.Timestamp) :
    ∃ a, a.satisfiedMethods = x.chain.satisfiedMethods ∧ s.finish x now =
      match x.selected with
      | none => .ok a
      | some r =>
        match s.covers x.chain r with
        | .error e => .error e
        | .ok true => .ok a
        | .ok false =>
          if Text.blank r.method then .ok a
          else if x.chain.satisfiedMethods.isEmpty then .error (.unacceptableMethod r.method)
          else if x.chain.satisfiedMethods.contains r.method then .ok a
          else .error (.unrecognizedMethod r.method r.target) := by
  obtain ⟨composite, hcomposite⟩ := Chain.exists_compose h now
  have hmethods := Chain.satisfiedMethods_compose hcomposite
  refine ⟨composite.toAuthentication, hmethods, ?_⟩
  unfold finish requirement
  simp only [hcomposite]
  cases x.selected with
  | none => rfl
  | some r =>
      cases hcov : s.covers x.chain r with
      | error e => simp only [hcov]
      | ok covered =>
          cases covered with
          | true => simp only [hcov]; rfl
          | false =>
              simp only [hcov, Validation.ofMethod, Validation.check, Option.bind_some,
                Text.nonblank?, List.getLast?_singleton, hmethods]
              cases Text.blank r.method with
              | true => rfl
              | false =>
                  simp only [Bool.false_eq_true, if_false]
                  cases x.chain.satisfiedMethods.isEmpty with
                  | true => rfl
                  | false =>
                      cases x.chain.satisfiedMethods.contains r.method <;> rfl

end Service

end StepUp
