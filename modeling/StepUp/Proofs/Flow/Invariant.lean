import StepUp.Proofs.Flow.Operations
import StepUp.Proofs.Flow.Run

/-!
# The invariant of runs

An attempt that a run reaches is settled (`Attempt.Settled`): its transaction is sound, what is
selected is the strongest request of the transaction, and once something is chained the transaction,
if there is one, has a selection.

The selection is the delicate part.  It is made by `evaluate` or by the primary step, and nothing
that comes later may add a request to the transaction: requests are staged only while nothing is
selected, and right after that the strongest request becomes the selection.  A call that fails after
it has changed the attempt is no exception, so `Service.settled_after` is about every call.
-/

namespace StepUp

open Cached

/-- The fields of an attempt fit together. -/
structure Attempt.Settled (reg : Registry) (x : Attempt) : Prop where
  sound : ∀ t, x.transaction = some t → t.Sound reg
  selected : ∀ r, x.selected = some r →
    ∃ t, x.transaction = some t ∧ reg.IsStrongest t.requests r
  chained : x.chain.isEmpty = false → x.transaction.isSome = true → x.selected.isSome = true

namespace Attempt.Settled

variable {reg : Registry} {x y : Attempt} {r : MethodRequest}

/-- What is selected is registered. -/
theorem contains_selected (h : x.Settled reg) (hr : x.selected = some r) :
    reg.contains r.method = true := by
  obtain ⟨t, ht, hstrongest⟩ := h.selected r hr
  exact (h.sound t ht).registered r hstrongest.mem

/-- Once something is chained, the selection is the strongest request of the transaction. -/
theorem selected_iff (h : x.Settled reg) (hne : x.chain.isEmpty = false) :
    x.selected = some r ↔ ∃ t, x.transaction = some t ∧ reg.IsStrongest t.requests r := by
  refine ⟨h.selected r, ?_⟩
  rintro ⟨t, ht, hr⟩
  have hsome := h.chained hne (by simp [ht])
  obtain ⟨selected, hselected⟩ := Option.isSome_iff_exists.1 hsome
  obtain ⟨u, hu, hstrongest⟩ := h.selected selected hselected
  rw [ht] at hu
  cases hu
  rw [hselected, hstrongest.unique (h.sound t ht).sources hr]

/-- An attempt stays settled when its requests and its selection stay, and nothing is chained first
without a selection. -/
theorem of_same_requests (h : x.Settled reg) {f : Transaction → Transaction}
    (hf : ∀ t, (f t).requests = t.requests ∧ (f t).target = t.target)
    (htransaction : y.transaction = x.transaction.map f) (hselected : y.selected = x.selected)
    (hchain : y.chain.isEmpty = false → x.chain.isEmpty = false ∨ x.selected.isSome = true) :
    y.Settled reg where
  sound := by
    intro u hu
    rw [htransaction] at hu
    obtain ⟨t, ht, rfl⟩ := Option.map_eq_some_iff.1 hu
    exact (h.sound t ht).congr (hf t).1 (hf t).2
  selected := by
    intro r hr
    rw [hselected] at hr
    obtain ⟨t, ht, hstrongest⟩ := h.selected r hr
    refine ⟨f t, by rw [htransaction, ht]; rfl, ?_⟩
    rw [(hf t).1]
    exact hstrongest
  chained := by
    intro hne hsome
    rw [hselected]
    rw [htransaction, Option.isSome_map] at hsome
    rcases hchain hne with hold | hold
    · exact h.chained hold hsome
    · exact hold

/-- Selecting the strongest request settles an attempt with a sound transaction. -/
theorem of_selected {t : Transaction} (ht : y.transaction = some t) (hsound : t.Sound reg)
    (hr : reg.IsStrongest t.requests r) (hselected : y.selected = some r) : y.Settled reg where
  sound := by
    intro u hu
    rw [ht] at hu
    exact Option.some.inj hu ▸ hsound
  selected := by
    intro q hq
    rw [hselected] at hq
    cases hq
    exact ⟨t, ht, hr⟩
  chained := by simp [hselected]

theorem of_no_transaction (ht : y.transaction = none) (hselected : y.selected = none) :
    y.Settled reg where
  sound := by simp [ht]
  selected := by simp [hselected]
  chained := by simp [ht]

end Attempt.Settled

namespace Service

variable [Regex.Dialect] {s : Service} {x : Attempt} {q : LoginRequest} {c : PatternCache}

/-! ## Each call keeps attempts settled -/

theorem settled_begin (h : answer (s.begin q) c = .ok x) : x.Settled s.registry := by
  obtain ⟨t, ht, rfl⟩ := begin_eq_ok h
  refine { sound := ?_, selected := by simp [Attempt.start], chained := ?_ }
  · intro u hu
    have hsome : t = some u := hu
    subst hsome
    exact Aggregator.sound_of_aggregate ht
  · intro hne
    cases hne

theorem settled_evaluate (hs : s.Built) (h : x.Settled s.registry) :
    (s.evaluate x q).2.Settled s.registry := by
  cases hdecide : s.strategy.decide (escalationInput x q) with
  | error e =>
      rw [evaluate_of_error hdecide]
      exact h
  | ok decision =>
      cases decision with
      | continueNormally =>
          rw [evaluate_of_continue hdecide]
          exact h.of_same_requests (f := id) (fun t => ⟨rfl, rfl⟩) (by simp) rfl Or.inl
      | requireMethod r =>
          rw [evaluate_of_require hdecide]
          obtain ⟨t, ht, hhigh, -⟩ := Strategy.of_decide_eq_requireMethod hdecide
          rw [hs.strategy_eq] at hhigh
          have hstrongest := (Registry.isStrongest_of_strongest hhigh).2
          exact Attempt.Settled.of_selected ht (h.sound t ht) hstrongest rfl

omit [Regex.Dialect] in
/-- A registered request that fits leaves the transaction sound. -/
theorem sound_of_stagedWith {reg : Registry} {current : Option Transaction} {u : Transaction}
    {found : Option MethodRequest} (hcurrent : ∀ t, current = some t → t.Sound reg)
    (hfound : ∀ r, found = some r → reg.contains r.method = true)
    (h : stagedWith current found = .ok (some u)) : u.Sound reg := by
  cases found with
  | none =>
      cases h
      exact hcurrent u rfl
  | some r =>
      rcases stagedWith_some_eq_ok h with ⟨-, rfl⟩ | ⟨t, ht, hadd⟩
      · exact Transaction.sound_ofRequest (hfound r rfl)
      · exact (hcurrent t ht).toConsistent.add (hfound r rfl) hadd

/-- What the primary step chains gets its strongest request selected, unless a request is, and is
settled then. -/
theorem settled_of_chainPrimary (hs : s.Built) (h : x.Settled s.registry)
    {found : Option MethodRequest} {a : Authentication} {credential : Option Credential}
    (hfound : ∀ r, found = some r → x.selected = none ∧ s.registry.contains r.method = true)
    {chained : Attempt} (hchained : chainPrimary x found a credential = .ok chained) :
    ∃ y, s.selectStrongest chained = .ok y ∧ y.Settled s.registry := by
  obtain ⟨t, hstaged, -, htransaction, hselected⟩ := chainPrimary_eq_ok hchained
  cases hx : x.selected with
  | some r =>
      -- nothing was looked for in the principal, so the requests are the same
      have hnone : found = none := by
        cases found with
        | none => rfl
        | some demanded =>
            have hunselected := (hfound demanded rfl).1
            rw [hx] at hunselected
            cases hunselected
      subst hnone
      cases hstaged
      refine ⟨chained, selectStrongest_of_selected (hselected.trans hx), ?_⟩
      exact h.of_same_requests (fun t => ⟨primed_requests t a, primed_target t a⟩) htransaction
        hselected fun _ => Or.inr (by rw [hx]; rfl)
  | none =>
      rw [hx] at hselected
      cases t with
      | none =>
          exact ⟨chained, selectStrongest_of_no_transaction htransaction,
            .of_no_transaction htransaction hselected⟩
      | some u =>
          have hsound := sound_of_stagedWith h.sound (fun r hr => (hfound r hr).2) hstaged
          have hprimed : (primed u a).Sound s.registry :=
            hsound.congr (primed_requests u a) (primed_target u a)
          obtain ⟨r, hr, hstrongest⟩ := hprimed.exists_strongest
          -- every method is registered by now, so the ranking cannot fail
          have hhigh : s.strategy.highest (primed u a) = .ok (some r) := by
            rw [hs.strategy_eq]
            exact hr
          exact ⟨chained.select r, selectStrongest_of_highest hselected htransaction hhigh,
            .of_selected htransaction hprimed hstrongest rfl⟩

theorem settled_completePrimary (hs : s.Built) (h : x.Settled s.registry) (a : Authentication)
    (credential : Option Credential) :
    (s.completePrimary x q a credential c).1.2.Settled s.registry := by
  rw [completePrimary_eq]
  cases hdemand : answer (s.principalDemand x q a) c with
  | error e => exact h
  | ok found =>
      dsimp only
      unfold primaryStep
      cases hchained : chainPrimary x found a credential with
      | error e => exact h
      | ok chained =>
          obtain ⟨y, hy, hsettled⟩ := settled_of_chainPrimary hs h
            (fun r hr => principalDemand_eq_some (hr ▸ hdemand)) hchained
          dsimp only
          rw [settle_of_selectStrongest hy]
          exact hsettled

/-- A primary step that succeeds selects the strongest of the requests that the attempt had and of
the one that was found for the principal. -/
theorem selected_of_completePrimary (hs : s.Built) (h : x.Settled s.registry) {a : Authentication}
    {credential : Option Credential} {o : Outcome} {y : Attempt}
    (hrun : (s.completePrimary x q a credential c).1 = (.ok o, y)) :
    ∃ found staged, answer (s.principalDemand x q a) c = .ok found ∧
      stagedWith x.transaction found = .ok staged ∧
      ∀ r, y.selected = some r ↔
        ∃ t, staged = some t ∧ s.registry.IsStrongest t.requests r := by
  have hsettled := settled_completePrimary (q := q) (c := c) hs h a credential
  rw [hrun] at hsettled
  obtain ⟨found, chained, hdemand, hchained, hselect, -⟩ := completePrimary_eq_ok hrun
  obtain ⟨staged, hstaged, happend, htransaction, -⟩ := chainPrimary_eq_ok hchained
  obtain ⟨hsame, hchain⟩ := frame_of_selectStrongest hselect
  refine ⟨found, staged, hdemand, hstaged, fun r => ?_⟩
  have hne : y.chain.isEmpty = false := hchain ▸ Chain.isEmpty_of_append happend
  rw [hsettled.selected_iff hne, hsame, htransaction]
  cases staged with
  | none => simp
  | some t => simp

omit [Regex.Dialect] in
theorem settled_completeMethod (h : x.Settled s.registry) (a : Authentication)
    (credential : Option Credential) : (s.completeMethod x a credential).2.Settled s.registry := by
  cases hx : x.selected with
  | none =>
      rw [completeMethod_of_not_selected hx]
      exact h
  | some r =>
      rw [completeMethod_of_selected hx]
      split
      · exact h
      · exact h.of_same_requests (f := id) (fun t => ⟨rfl, rfl⟩) (by simp) rfl
          fun _ => Or.inr (by rw [hx]; rfl)

/-- Every call keeps an attempt settled, also one that fails. -/
theorem settled_after (hs : s.Built) (h : x.Settled s.registry) (call : Call) (c : PatternCache) :
    (s.after x c call).Settled s.registry := by
  cases call with
  | evaluate request => exact settled_evaluate hs h
  | completePrimary request a credential => exact settled_completePrimary hs h a credential
  | completeMethod a credential => exact settled_completeMethod h a credential

/-- Every run of a service that was built reaches settled attempts only. -/
theorem Reachable.settled (hs : s.Built) (h : s.Reachable q x) : x.Settled s.registry := by
  induction h with
  | begin hbegin => exact settled_begin hbegin
  | call call c _ ih => exact settled_after hs ih call c

end Service

end StepUp
