import StepUp.Proofs.Flow.Invariant
import StepUp.Proofs.Ranking.Coverage

/-!
# When the primary step is atomic

The primary step can fail before it has chained anything, and then it leaves the attempt as it was.
It can also fail after that, when the ranking is asked which request to honor and whether the chain
covers it, and then the chain has grown, the transaction may have, and a request may be selected.

So a primary step is atomic exactly when the ranking answers for what was chained.  A service that
ranks by its registry always knows which request to honor.  Whether the chain covers it, the ranking
cannot tell when the chain records a name that is not registered and no lesser name that is strong
enough; such a name comes from an attribute of the authentication and not from the transaction.
-/

namespace StepUp

open Cached

namespace Service

section

variable {s : Service} {x y : Attempt} {q : LoginRequest} {r : MethodRequest}

/-! ## What the ranking is asked -/

/-- The request that an attempt honors: the selected one, or else the one of its transaction that
the ranking puts first. -/
def Honors (s : Service) (x : Attempt) (r : MethodRequest) : Prop :=
  x.selected = some r ∨
    x.selected = none ∧ ∃ t, x.transaction = some t ∧ s.strategy.highest t = .ok (some r)

/-- The ranking answers what it is asked about an attempt. -/
structure RankingAnswers (s : Service) (x : Attempt) : Prop where
  highest : x.selected = none → ∀ t, x.transaction = some t →
    ∃ best, s.strategy.highest t = .ok best
  covers : ∀ r, s.Honors x r → ∃ covered, s.covers x.chain r = .ok covered

/-- What is selected in the end is the request that the attempt honors. -/
theorem honors_iff_of_selectStrongest (h : s.selectStrongest x = .ok y) :
    s.Honors x r ↔ y.selected = some r := by
  unfold selectStrongest at h
  split at h
  next t hselected ht =>
      split at h
      next => cases h
      next hhigh =>
          cases h
          simp [Honors, hselected, ht, hhigh]
      next best hhigh =>
          cases h
          simp [Honors, hselected, ht, hhigh, Attempt.select]
  next hother =>
      cases h
      refine ⟨fun hr => ?_, Or.inl⟩
      rcases hr with hr | ⟨hnone, t, ht, -⟩
      · exact hr
      · exact (hother t hnone ht).elim

/-- Settling an attempt asks the ranking these two questions and nothing else. -/
theorem settle_ok_iff : (∃ o, (s.settle x).1 = .ok o) ↔ s.RankingAnswers x := by
  cases hselect : s.selectStrongest x with
  | error e =>
      refine iff_of_false (by simp [settle, hselect]) fun h => ?_
      obtain ⟨y, hy⟩ := selectStrongest_ok_iff.2 h.highest
      rw [hselect] at hy
      cases hy
  | ok y =>
      rw [settle_of_selectStrongest hselect, outcome_ok_iff, (frame_of_selectStrongest hselect).2]
      constructor
      · intro h
        refine ⟨selectStrongest_ok_iff.1 ⟨y, hselect⟩, fun r hr => ?_⟩
        exact h r ((honors_iff_of_selectStrongest hselect).1 hr)
      · intro h r hr
        exact h.covers r ((honors_iff_of_selectStrongest hselect).2 hr)

/-! ## A ranking by ranks -/

variable [Regex.Dialect]

/-- A service that was built gets its answers exactly where the names recorded in the chain are
recognized. -/
theorem rankingAnswers_iff_recognized (hs : s.Built) {z : Attempt}
    (hz : s.selectStrongest y = .ok z) (hsettled : z.Settled s.registry)
    (hne : y.chain.isEmpty = false) :
    s.RankingAnswers y ↔ ∀ t r, y.transaction = some t → s.registry.IsStrongest t.requests r →
      s.registry.Recognizes y.chain.satisfiedMethods r.method := by
  obtain ⟨htransaction, hchain⟩ := frame_of_selectStrongest hz
  have hselected : ∀ r, z.selected = some r ↔
      ∃ t, y.transaction = some t ∧ s.registry.IsStrongest t.requests r := by
    intro r
    rw [← htransaction]
    exact hsettled.selected_iff (hchain ▸ hne)
  have hcovers : ∀ r, z.selected = some r → ((∃ covered, s.covers z.chain r = .ok covered) ↔
      s.registry.Recognizes y.chain.satisfiedMethods r.method) := by
    intro r hr
    rw [hs.covers_eq, hchain]
    exact Ranking.covers_ok_iff (hsettled.contains_selected hr)
  rw [← settle_ok_iff, settle_of_selectStrongest hz, outcome_ok_iff]
  constructor
  · intro h t r ht hr
    have hzr := (hselected r).2 ⟨t, ht, hr⟩
    exact (hcovers r hzr).1 (h r hzr)
  · intro h r hzr
    obtain ⟨t, ht, hr⟩ := (hselected r).1 hzr
    exact (hcovers r hzr).2 (h t r ht hr)

/-! ## The primary step -/

omit [Regex.Dialect] in
/-- A step that has chained something has changed the attempt, whatever it answers. -/
theorem settle_ne_of_chainPrimary {found : Option MethodRequest} {a : Authentication}
    {credential : Option Credential} (h : chainPrimary x found a credential = .ok y) :
    (s.settle y).2 ≠ x := by
  obtain ⟨-, -, happend, -⟩ := chainPrimary_eq_ok h
  intro heq
  -- the chain is longer by one, and settling leaves the chain alone
  have hlength := congrArg (fun z => z.chain.authentications.length) heq
  simp only [chain_settle, Chain.authentications_of_append happend, List.length_append,
    List.length_singleton] at hlength
  omega

omit [Regex.Dialect] in
theorem primaryStep_atomic_iff (s : Service) (x : Attempt) (found : Option MethodRequest)
    (a : Authentication) (credential : Option Credential) :
    (∀ e, (s.primaryStep x found a credential).1 = .error e →
        (s.primaryStep x found a credential).2 = x) ↔
      ∀ y, chainPrimary x found a credential = .ok y → s.RankingAnswers y := by
  unfold primaryStep
  cases hchained : chainPrimary x found a credential with
  | error e => simp
  | ok y =>
      simp only [Except.ok.injEq, forall_eq']
      rw [← settle_ok_iff]
      cases hanswer : (s.settle y).1 with
      | ok o => simp
      | error e =>
          refine iff_of_false (fun h => ?_) (by simp)
          exact settle_ne_of_chainPrimary hchained (h e rfl)

/-- A primary step is atomic exactly when the ranking answers for what it has chained.  Where a
service that was built makes it in a run, this is so exactly when the names that the grown chain
records are recognized for the strongest request of the transaction. -/
theorem completePrimary_atomic_iff (s : Service) (x : Attempt) (q : LoginRequest)
    (a : Authentication) (credential : Option Credential) (c : PatternCache) :
    ((∀ e, (s.completePrimary x q a credential c).1.1 = .error e →
        (s.completePrimary x q a credential c).1.2 = x) ↔
      ∀ found, answer (s.principalDemand x q a) c = .ok found →
        ∀ y, chainPrimary x found a credential = .ok y → s.RankingAnswers y) ∧
    ∀ begun, s.Built → s.Reachable begun x →
      ∀ found, answer (s.principalDemand x q a) c = .ok found →
        ∀ y, chainPrimary x found a credential = .ok y →
          (s.RankingAnswers y ↔ ∀ t r, y.transaction = some t →
            s.registry.IsStrongest t.requests r →
            s.registry.Recognizes y.chain.satisfiedMethods r.method) := by
  constructor
  · rw [completePrimary_eq]
    cases hdemand : answer (s.principalDemand x q a) c with
    | error e => simp
    | ok found =>
        simp only [Except.ok.injEq, forall_eq']
        exact primaryStep_atomic_iff s x found a credential
  · intro begun hs hx found hdemand y hchained
    obtain ⟨z, hz, hsettled⟩ := settled_of_chainPrimary hs (hx.settled hs)
      (fun r hr => principalDemand_eq_some (hr ▸ hdemand)) hchained
    obtain ⟨-, -, happend, -⟩ := chainPrimary_eq_ok hchained
    exact rankingAnswers_iff_recognized hs hz hsettled (Chain.isEmpty_of_append happend)

end

/-- Where the chain of the small service records a name that is not registered behind a strong one,
the primary step is atomic. -/
theorem completePrimary_atomic_behind_duo :
    ∃ y, chainPrimary smallAttempt none (aliceWith (.arr [.str "push", .str "duo"])) none = .ok y ∧
      small.RankingAnswers y ∧
      ∀ e, (small.completePrimary smallAttempt smallRequest
          (aliceWith (.arr [.str "push", .str "duo"])) none .empty).1.1 = .error e →
        (small.completePrimary smallAttempt smallRequest
          (aliceWith (.arr [.str "push", .str "duo"])) none .empty).1.2 = smallAttempt := by
  have h := completePrimary_atomic_iff small smallAttempt smallRequest
    (aliceWith (.arr [.str "push", .str "duo"])) none .empty
  have hdemand : answer (small.principalDemand smallAttempt smallRequest
      (aliceWith (.arr [.str "push", .str "duo"]))) .empty = .ok none := rfl
  have hduo : small.registry.AtLeast "duo" "duo" := .refl (by decide)
  have hanswers : ∀ y, chainPrimary smallAttempt none
      (aliceWith (.arr [.str "push", .str "duo"])) none = .ok y → small.RankingAnswers y := by
    intro y hy
    rw [h.2 smallRequest small_built reachable_smallAttempt none hdemand y hy]
    intro t r ht hr n hn
    cases hy
    cases ht
    cases List.mem_singleton.1 hr.mem
    have hnames : n ∈ ["duo", "push"] := hn
    rcases List.mem_cons.1 hnames with rfl | hpush
    · exact Or.inl (by decide)
    · rw [List.mem_singleton.1 hpush]
      exact Or.inr ⟨"duo", List.mem_cons_self, by decide, hduo⟩
  refine ⟨_, rfl, hanswers _ rfl, h.1.2 fun found hfound => ?_⟩
  rw [hdemand] at hfound
  cases hfound
  exact hanswers

/-- A login that records a name that is not registered fails after it was chained: the attempt has a
chain then, a selection and a primary authentication. -/
theorem completePrimary_fails_after_chaining :
    small.Reachable smallRequest smallAttempt ∧
      (small.completePrimary smallAttempt smallRequest (aliceWith (.str "push")) none .empty).1.1 =
        .error (.unregisteredMethod "push") ∧
      (small.completePrimary smallAttempt smallRequest (aliceWith (.str "push")) none .empty).1.2 ≠
        smallAttempt := by
  refine ⟨reachable_smallAttempt, rfl, fun h => ?_⟩
  have hlength := congrArg (fun x => x.chain.length) h
  cases hlength

end Service

end StepUp
