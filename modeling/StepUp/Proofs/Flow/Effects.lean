import StepUp.Proofs.Flow.Invariant
import StepUp.Proofs.Resolution.Proposals

/-!
# What a call changes

A call on an attempt fails before it has changed anything, or it makes one of four changes: an
evaluation lets the attempt go on or requires a method of it, the primary step chains an
authentication, and so does the step of the selected method.  `Service.Effect` lists these cases
with what has to hold for each, and `Service.effect_after` says that every call is one of them,
whatever it answers.

The fields of an attempt are followed through the cases once, here:

* the session stays as it is (`Effect.session`);
* the chain stays, or grows by one authentication that `Chain.append` accepts (`Effect.chain`);
* a transaction is never dropped, and keeps its target, its primary authentication and its requests
  (`Effect.transaction`);
* only the primary step makes a transaction where there was none, of the request that it found in
  the principal (`Effect.created`);
* what is selected anew is what the ranking honors in the transaction (`Effect.selected`).

For calls in a row the same follows by induction (`Leads.transaction`, `Leads.chain`).
-/

namespace StepUp

open Cached

/-! ## Transactions that go on -/

/-- A transaction goes on as another: nothing that it holds is lost. -/
structure Transaction.Continues (t u : Transaction) : Prop where
  target : u.target = t.target
  primary : ∀ p, t.primary = some p → u.primary = some p
  requests : t.requests <+: u.requests

namespace Transaction.Continues

variable {t u v : Transaction} {r : MethodRequest}

theorem refl (t : Transaction) : t.Continues t :=
  ⟨rfl, fun _ => id, List.prefix_rfl⟩

theorem trans (htu : t.Continues u) (huv : u.Continues v) : t.Continues v where
  target := huv.target.trans htu.target
  primary := fun p hp => huv.primary p (htu.primary p hp)
  requests := htu.requests.trans huv.requests

theorem of_add (h : t.add r = .ok u) : t.Continues u := by
  obtain ⟨-, -, rfl⟩ := Transaction.add_eq_ok_iff.1 h
  exact ⟨rfl, fun _ => id, List.prefix_append _ _⟩

theorem of_primed (t : Transaction) (a : Authentication) : t.Continues (Service.primed t a) where
  target := Service.primed_target t a
  primary := by
    intro p hp
    simp [Service.primed, hp]
  requests := (Service.primed_requests t a).symm ▸ List.prefix_rfl

end Transaction.Continues

namespace Service

variable {s : Service} {x y : Attempt} {q : LoginRequest} {call : Call}

/-! ## The parts of the primary step -/

theorem primary_primed (t : Transaction) (a : Authentication) :
    (primed t a).primary = some (t.primary.getD a) := by
  unfold primed
  cases h : t.primary with
  | none => rfl
  | some p => simpa using h

/-- A transaction goes on when it is staged. -/
theorem continues_of_stagedWith {t : Transaction} {found : Option MethodRequest}
    {staged : Option Transaction} (h : stagedWith (some t) found = .ok staged) :
    ∃ u, staged = some u ∧ t.Continues u ∧ u.primary = t.primary := by
  cases found with
  | none =>
      cases h
      exact ⟨t, rfl, .refl t, rfl⟩
  | some r =>
      rw [stagedWith_some_some] at h
      cases hadd : t.add r with
      | error e =>
          rw [hadd] at h
          cases h
      | ok u =>
          rw [hadd] at h
          cases h
          obtain ⟨-, -, hu⟩ := Transaction.add_eq_ok_iff.1 hadd
          exact ⟨u, rfl, .of_add hadd, by rw [hu]⟩

/-- A transaction that is staged where there was none is that of the request found. -/
theorem stagedWith_none_eq_ok {found : Option MethodRequest} {u : Transaction}
    (h : stagedWith none found = .ok (some u)) : ∃ r, found = some r ∧ u = .ofRequest r := by
  cases found with
  | none => cases h
  | some r =>
      cases h
      exact ⟨r, rfl, rfl⟩

theorem session_of_chainPrimary {found : Option MethodRequest} {a : Authentication}
    {credential : Option Credential} (h : chainPrimary x found a credential = .ok y) :
    y.session = x.session := by
  obtain ⟨staged, chain, rfl⟩ := chainPrimary_eq_installed h
  exact installed_session _ staged a

/-- The chain of an attempt that has to step up is its chain, or begins with the session. -/
theorem seededChain_eq_or_append (x : Attempt) : seededChain x = x.chain ∨
    ∃ a, x.chain.isEmpty = true ∧ x.session = some a ∧
      x.chain.append a none = .ok (seededChain x) := by
  unfold seededChain
  split
  next a hempty hsession => exact Or.inr ⟨a, hempty, hsession, Chain.append_of_isEmpty hempty a⟩
  next => exact Or.inl rfl

theorem isEmpty_seededChain (hsession : x.session.isSome = true) :
    (seededChain x).isEmpty = false := by
  unfold seededChain
  split
  next => rfl
  next hother =>
      obtain ⟨a, ha⟩ := Option.isSome_iff_exists.1 hsession
      cases hempty : x.chain.isEmpty with
      | false => rfl
      | true => exact (hother a hempty ha).elim

variable [Regex.Dialect] {c : PatternCache}

/-- What the principal demands comes from it, for the service of the request. -/
theorem from_principalDemand {a : Authentication} {r : MethodRequest}
    (h : answer (s.principalDemand x q a) c = .ok (some r)) :
    r.source = .principalAttribute ∧ r.target = q.serviceId := by
  rw [answer_principalDemand] at h
  split at h
  next => cases h
  next => exact Aggregator.from_resolvePrincipal h

/-! ## The cases of a call -/

/-- What a call can make of an attempt. -/
inductive Effect (s : Service) (x : Attempt) (c : PatternCache) : Call → Attempt → Prop
  /-- The call fails before it has changed anything. -/
  | kept (call : Call) : Effect s x c call x
  /-- An evaluation lets the attempt go on. -/
  | wentOn (q : LoginRequest) : Effect s x c (.evaluate q) { x with state := .continueNormally }
  /-- An evaluation requires a method. -/
  | required (q : LoginRequest) (r : MethodRequest) :
      s.strategy.decide (escalationInput x q) = .ok (.requireMethod r) →
      Effect s x c (.evaluate q) { x.select r with chain := seededChain x }
  /-- The primary step chains an authentication; what comes after that may fail. -/
  | primary (q : LoginRequest) (a : Authentication) (credential : Option Credential)
      (found : Option MethodRequest) (chained : Attempt) :
      answer (s.principalDemand x q a) c = .ok found →
      chainPrimary x found a credential = .ok chained →
      Effect s x c (.completePrimary q a credential) (s.settle chained).2
  /-- The step of the selected method chains an authentication. -/
  | method (a : Authentication) (credential : Option Credential) (r : MethodRequest)
      (chain : Chain) : x.selected = some r →
      x.chain.append (recorded a r.method) (credential.map (r.method, ·)) = .ok chain →
      Effect s x c (.completeMethod a credential) { x with chain }

theorem effect_after (s : Service) (x : Attempt) (c : PatternCache) (call : Call) :
    s.Effect x c call (s.after x c call) := by
  cases call with
  | evaluate q =>
      change s.Effect x c (.evaluate q) (s.evaluate x q).2
      cases hdecide : s.strategy.decide (escalationInput x q) with
      | error e =>
          rw [evaluate_of_error hdecide]
          exact .kept _
      | ok decision =>
          cases decision with
          | continueNormally =>
              rw [evaluate_of_continue hdecide]
              exact .wentOn q
          | requireMethod r =>
              rw [evaluate_of_require hdecide]
              exact .required q r hdecide
  | completePrimary q a credential =>
      change s.Effect x c (.completePrimary q a credential)
        (s.completePrimary x q a credential c).1.2
      rw [completePrimary_eq]
      cases hdemand : answer (s.principalDemand x q a) c with
      | error e => exact .kept _
      | ok found =>
          dsimp only
          unfold primaryStep
          cases hchained : chainPrimary x found a credential with
          | error e => exact .kept _
          | ok chained => exact .primary q a credential found chained hdemand hchained
  | completeMethod a credential =>
      change s.Effect x c (.completeMethod a credential) (s.completeMethod x a credential).2
      cases hx : x.selected with
      | none =>
          rw [completeMethod_of_not_selected hx]
          exact .kept _
      | some r =>
          rw [completeMethod_of_selected hx]
          split
          next => exact .kept _
          next chain happend => exact .method a credential r chain hx happend

/-! ## The fields of an attempt, through a call -/

namespace Effect

theorem session (h : s.Effect x c call y) : y.session = x.session := by
  cases h with
  | kept => rfl
  | wentOn q => rfl
  | required q r _ => rfl
  | primary q a credential found chained _ hchained =>
      rw [session_settle, session_of_chainPrimary hchained]
  | method a credential r chain _ _ => rfl

/-- The chain grows by one authentication, or not at all. -/
theorem chain (h : s.Effect x c call y) :
    y.chain = x.chain ∨ ∃ a credential, x.chain.append a credential = .ok y.chain := by
  cases h with
  | kept => exact Or.inl rfl
  | wentOn q => exact Or.inl rfl
  | required q r _ =>
      rcases seededChain_eq_or_append x with hsame | ⟨a, -, -, happend⟩
      · exact Or.inl hsame
      · exact Or.inr ⟨a, none, happend⟩
  | primary q a credential found chained _ hchained =>
      obtain ⟨-, -, happend, -⟩ := chainPrimary_eq_ok hchained
      rw [chain_settle]
      exact Or.inr ⟨a, _, happend⟩
  | method a credential r chain _ happend => exact Or.inr ⟨_, _, happend⟩

theorem transaction (h : s.Effect x c call y) {t : Transaction} (ht : x.transaction = some t) :
    ∃ u, y.transaction = some u ∧ t.Continues u := by
  cases h with
  | kept => exact ⟨t, ht, .refl t⟩
  | wentOn q => exact ⟨t, ht, .refl t⟩
  | required q r _ => exact ⟨t, ht, .refl t⟩
  | primary q a credential found chained _ hchained =>
      obtain ⟨staged, hstaged, -, htransaction, -⟩ := chainPrimary_eq_ok hchained
      rw [ht] at hstaged
      obtain ⟨u, rfl, hcontinues, -⟩ := continues_of_stagedWith hstaged
      rw [transaction_settle]
      exact ⟨primed u a, htransaction, hcontinues.trans (.of_primed u a)⟩
  | method a credential r chain _ _ => exact ⟨t, ht, .refl t⟩

/-- A transaction is made by the primary step alone, of a request that it found in the principal,
and it is for the service that the call names. -/
theorem created (h : s.Effect x c call y) (hnone : x.transaction = none) {u : Transaction}
    (hu : y.transaction = some u) :
    ∃ q a credential r, call = .completePrimary q a credential ∧
      answer (s.principalDemand x q a) c = .ok (some r) ∧ u.target = q.serviceId := by
  cases h with
  | kept => simp [hnone] at hu
  | wentOn q => simp [hnone] at hu
  | required q r _ => simp [Attempt.select, hnone] at hu
  | primary q a credential found chained hdemand hchained =>
      obtain ⟨staged, hstaged, -, htransaction, -⟩ := chainPrimary_eq_ok hchained
      rw [transaction_settle, htransaction] at hu
      obtain ⟨v, hv, rfl⟩ := Option.map_eq_some_iff.1 hu
      rw [hnone, hv] at hstaged
      obtain ⟨r, rfl, rfl⟩ := stagedWith_none_eq_ok hstaged
      refine ⟨q, a, credential, r, rfl, hdemand, ?_⟩
      rw [primed_target]
      exact (from_principalDemand hdemand).2
  | method a credential r chain _ _ => simp [hnone] at hu

/-- A primary authentication was recorded before the call, or is chained by it. -/
theorem primary_or_chained (h : s.Effect x c call y) {u : Transaction} {p : Authentication}
    (hu : y.transaction = some u) (hp : u.primary = some p) :
    (∃ t, x.transaction = some t ∧ t.primary = some p) ∨ p ∈ y.chain.authentications := by
  cases h with
  | kept => exact Or.inl ⟨u, hu, hp⟩
  | wentOn q => exact Or.inl ⟨u, hu, hp⟩
  | required q r _ => exact Or.inl ⟨u, hu, hp⟩
  | primary q a credential found chained _ hchained =>
      obtain ⟨staged, hstaged, happend, htransaction, -⟩ := chainPrimary_eq_ok hchained
      rw [transaction_settle, htransaction] at hu
      obtain ⟨v, hv, rfl⟩ := Option.map_eq_some_iff.1 hu
      have hlast : a ∈ chained.chain.authentications := by
        simp [Chain.authentications_of_append happend]
      rw [primary_primed] at hp
      rw [chain_settle]
      cases hx : x.transaction with
      | none =>
          -- the transaction is that of the request found, which records nobody
          rw [hx, hv] at hstaged
          obtain ⟨r, -, rfl⟩ := stagedWith_none_eq_ok hstaged
          cases hp
          exact Or.inr hlast
      | some t =>
          rw [hx, hv] at hstaged
          obtain ⟨w, hw, -, hsame⟩ := continues_of_stagedWith hstaged
          cases hw
          cases ht : t.primary with
          | none =>
              rw [hsame, ht] at hp
              cases hp
              exact Or.inr hlast
          | some p' =>
              rw [hsame, ht] at hp
              cases hp
              exact Or.inl ⟨t, rfl, ht⟩
  | method a credential r chain _ _ => exact Or.inl ⟨u, hu, hp⟩

/-- What is selected stays, or is what the ranking honors in the transaction. -/
theorem selected (h : s.Effect x c call y) : y.selected = x.selected ∨
    ∃ t r, y.transaction = some t ∧ s.strategy.highest t = .ok (some r) ∧ y.selected = some r := by
  cases h with
  | kept => exact Or.inl rfl
  | wentOn q => exact Or.inl rfl
  | required q r hdecide =>
      obtain ⟨t, ht, hhigh, -⟩ := Strategy.of_decide_eq_requireMethod hdecide
      exact Or.inr ⟨t, r, ht, hhigh, rfl⟩
  | primary q a credential found chained _ hchained =>
      obtain ⟨-, -, -, -, hsame⟩ := chainPrimary_eq_ok hchained
      rw [transaction_settle, ← hsame]
      exact selected_settle s chained
  | method a credential r chain _ _ => exact Or.inl rfl

/-- The transaction stays sound, whatever ranking the service has. -/
theorem sound (h : s.Effect x c call y) (hx : ∀ t, x.transaction = some t → t.Sound s.registry)
    {u : Transaction} (hu : y.transaction = some u) : u.Sound s.registry := by
  cases h with
  | kept => exact hx u hu
  | wentOn q => exact hx u hu
  | required q r _ => exact hx u hu
  | primary q a credential found chained hdemand hchained =>
      obtain ⟨staged, hstaged, -, htransaction, -⟩ := chainPrimary_eq_ok hchained
      rw [transaction_settle, htransaction] at hu
      obtain ⟨v, rfl, rfl⟩ := Option.map_eq_some_iff.1 hu
      have hv : v.Sound s.registry := by
        refine sound_of_stagedWith hx (fun r hr => ?_) hstaged
        exact (principalDemand_eq_some (hr ▸ hdemand)).2
      exact hv.congr (primed_requests v a) (primed_target v a)
  | method a credential r chain _ _ => exact hx u hu

end Effect

/-! ## Calls in a row -/

namespace Leads

theorem session (h : s.Leads x y) : y.session = x.session := by
  induction h with
  | refl => rfl
  | call call c _ ih => exact (effect_after s _ c call).session.trans ih

theorem chain (h : s.Leads x y) : x.chain.authentications <+: y.chain.authentications := by
  induction h with
  | refl => exact List.prefix_rfl
  | @call z call c _ ih =>
      rcases (effect_after s z c call).chain with hsame | ⟨a, credential, happend⟩
      · rw [hsame]
        exact ih
      · rw [Chain.authentications_of_append happend]
        exact ih.trans (List.prefix_append _ _)

theorem transaction (h : s.Leads x y) {t : Transaction} (ht : x.transaction = some t) :
    ∃ u, y.transaction = some u ∧ t.Continues u := by
  induction h with
  | refl => exact ⟨t, ht, .refl t⟩
  | @call z call c _ ih =>
      obtain ⟨v, hv, hcontinues⟩ := ih
      obtain ⟨u, hu, hmore⟩ := (effect_after s z c call).transaction hv
      exact ⟨u, hu, hcontinues.trans hmore⟩

theorem sound (h : s.Leads x y) (hx : ∀ t, x.transaction = some t → t.Sound s.registry)
    {u : Transaction} (hu : y.transaction = some u) : u.Sound s.registry := by
  induction h generalizing u with
  | refl => exact hx u hu
  | call call c _ ih => exact (effect_after s _ c call).sound (fun t ht => ih ht) hu

end Leads

end Service

end StepUp
