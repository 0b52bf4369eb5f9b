import StepUp.Proofs.Flow.Invariant

/-!
# The selection of an attempt

Two things are said of the selection of every attempt that a run reaches.

The first is how it goes with the transaction: what is selected is the one request of the
transaction that stands before all others, and something is selected once anything is chained while
there is a transaction (`selection_of_reachable`).

The second is how it goes with the state.  A request is selected together with its state, and no
call takes a selection away.  But an evaluation that lets the attempt go on writes the state alone,
also where a request is selected already.  So the state names the selected method in every attempt
of a run except those which were let go on with a selection, and such an evaluation is the only call
that leads there (`state_names_selection_iff`).
-/

namespace StepUp

open Cached

/-! ## The state that goes with a selection -/

namespace Attempt

/-- The state requires a method exactly when a request for that method is selected. -/
def InStep (x : Attempt) : Prop :=
  ∀ n, x.state = .requireMethod n ↔ ∃ r, x.selected = some r ∧ r.method = n

/-- Nothing is required without a selection, and what is selected is required, unless the attempt
was let go on. -/
structure Guided (x : Attempt) : Prop where
  unselected : x.selected = none → ∀ n, x.state ≠ .requireMethod n
  selected : ∀ r, x.selected = some r →
    x.state = .requireMethod r.method ∨ x.state = .continueNormally

variable {x y : Attempt} {r : MethodRequest}

theorem InStep.of_selected (hselected : x.selected = some r)
    (hstate : x.state = .requireMethod r.method) : x.InStep := by
  intro n
  rw [hstate, hselected]
  simp

theorem InStep.of_not_selected (hselected : x.selected = none)
    (hstate : ∀ n, x.state ≠ .requireMethod n) : x.InStep := by
  intro n
  rw [hselected]
  simpa using hstate n

theorem Guided.inStep_iff (h : x.Guided) :
    x.InStep ↔ (x.selected.isSome = true → x.state ≠ .continueNormally) := by
  cases hselected : x.selected with
  | none =>
      have hin : x.InStep := .of_not_selected hselected (h.unselected hselected)
      exact iff_of_true hin (by simp)
  | some r =>
      constructor
      · intro hin _ hstate
        have hrequired := (hin r.method).2 ⟨r, hselected, rfl⟩
        rw [hstate] at hrequired
        cases hrequired
      · intro hstays
        rcases h.selected r hselected with hstate | hstate
        · exact .of_selected hselected hstate
        · exact absurd hstate (hstays rfl)

/-! ## What a call does with state and selection -/

/-- The selection stays, and the state stays or leaves `noTransaction` for `evaluating`. -/
structure Keeps (x y : Attempt) : Prop where
  selected : y.selected = x.selected
  state : y.state = x.state ∨ x.state = .noTransaction ∧ y.state = .evaluating

/-- A request is selected and its method required. -/
def Selects (y : Attempt) : Prop :=
  ∃ r, y.selected = some r ∧ y.state = .requireMethod r.method

/-- The selection stays, and the attempt goes on. -/
structure GoesOn (x y : Attempt) : Prop where
  selected : y.selected = x.selected
  state : y.state = .continueNormally

theorem Keeps.refl (x : Attempt) : x.Keeps x :=
  ⟨rfl, Or.inl rfl⟩

theorem Keeps.trans {z : Attempt} (hxy : x.Keeps y) (hyz : y.Keeps z) : x.Keeps z where
  selected := hyz.selected.trans hxy.selected
  state := by
    rcases hxy.state with hsame | ⟨hfrom, hto⟩
    · rw [← hsame]
      exact hyz.state
    · rcases hyz.state with hsame | ⟨hnone, -⟩
      · exact Or.inr ⟨hfrom, hsame.trans hto⟩
      · rw [hto] at hnone
        cases hnone

theorem Keeps.requireMethod_iff (h : x.Keeps y) (n : String) :
    y.state = .requireMethod n ↔ x.state = .requireMethod n := by
  rcases h.state with hsame | ⟨hfrom, hto⟩
  · rw [hsame]
  · simp [hfrom, hto]

theorem Keeps.inStep_iff (h : x.Keeps y) : y.InStep ↔ x.InStep := by
  unfold InStep
  simp only [h.requireMethod_iff, h.selected]

theorem Selects.inStep (h : y.Selects) : y.InStep := by
  obtain ⟨r, hselected, hstate⟩ := h
  exact .of_selected hselected hstate

theorem GoesOn.inStep_iff (h : x.GoesOn y) : y.InStep ↔ x.selected = none := by
  constructor
  · intro hin
    rw [← h.selected]
    cases hselected : y.selected with
    | none => rfl
    | some r =>
        have hrequired := (hin r.method).2 ⟨r, hselected, rfl⟩
        rw [h.state] at hrequired
        cases hrequired
  · intro hnone
    exact .of_not_selected (h.selected.trans hnone) (by simp [h.state])

theorem Guided.of_keeps (hx : x.Guided) (h : x.Keeps y) : y.Guided where
  unselected := by
    intro hnone n
    rw [Ne, h.requireMethod_iff]
    exact hx.unselected (h.selected ▸ hnone) n
  selected := by
    intro r hr
    rw [h.selected] at hr
    rcases h.state with hsame | ⟨hfrom, -⟩
    · rw [hsame]
      exact hx.selected r hr
    · -- an attempt with a selection has left `noTransaction` behind
      rcases hx.selected r hr with hstate | hstate
      · rw [hfrom] at hstate
        cases hstate
      · rw [hfrom] at hstate
        cases hstate

theorem Guided.of_inStep (h : y.InStep) : y.Guided where
  unselected := by
    intro hnone n hstate
    obtain ⟨r, hr, -⟩ := (h n).1 hstate
    rw [hnone] at hr
    cases hr
  selected := fun r hr => Or.inl ((h r.method).2 ⟨r, hr, rfl⟩)

theorem Guided.of_goesOn (h : x.GoesOn y) : y.Guided where
  unselected := by simp [h.state]
  selected := fun _ _ => Or.inr h.state

theorem guided_start (t : Option Transaction) (session : Option Authentication) :
    (start t session).Guided where
  unselected := by
    intro _ n
    unfold start
    cases t <;> simp
  selected := by simp [start]

end Attempt

namespace Service

section

variable {s : Service} {x : Attempt} {q : LoginRequest}

/-- The call is an evaluation that lets the attempt go on. -/
def SendsOn (s : Service) (x : Attempt) : Call → Prop
  | .evaluate q => (s.evaluate x q).1 = .ok .continueNormally
  | .completePrimary _ _ _ => False
  | .completeMethod _ _ => False

theorem evaluate_keeps_or_selects (h : ¬ s.SendsOn x (.evaluate q)) :
    x.Keeps (s.evaluate x q).2 ∨ (s.evaluate x q).2.Selects := by
  cases hdecide : s.strategy.decide (escalationInput x q) with
  | error e =>
      rw [evaluate_of_error hdecide]
      exact Or.inl (.refl x)
  | ok decision =>
      cases decision with
      | continueNormally =>
          refine absurd ?_ h
          change (s.evaluate x q).1 = .ok .continueNormally
          rw [evaluate_of_continue hdecide]
      | requireMethod r =>
          rw [evaluate_of_require hdecide]
          exact Or.inr ⟨r, rfl, rfl⟩

theorem settle_keeps_or_selects (s : Service) (x : Attempt) :
    x.Keeps (s.settle x).2 ∨ (s.settle x).2.Selects := by
  cases hselect : s.selectStrongest x with
  | error e =>
      unfold settle
      rw [hselect]
      exact Or.inl (.refl x)
  | ok y =>
      rw [settle_of_selectStrongest hselect]
      rcases selectStrongest_eq_ok hselect with rfl | ⟨-, t, r, -, -, rfl⟩
      · exact Or.inl (.refl y)
      · exact Or.inr ⟨r, rfl, rfl⟩

theorem keeps_of_chainPrimary {y : Attempt} {found : Option MethodRequest} {a : Authentication}
    {credential : Option Credential} (h : chainPrimary x found a credential = .ok y) :
    x.Keeps y := by
  obtain ⟨staged, chain, rfl⟩ := chainPrimary_eq_installed h
  exact ⟨installed_selected _ staged a, installed_state { x with chain } staged a⟩

theorem primaryStep_keeps_or_selects (s : Service) (x : Attempt) (found : Option MethodRequest)
    (a : Authentication) (credential : Option Credential) :
    x.Keeps (s.primaryStep x found a credential).2 ∨
      (s.primaryStep x found a credential).2.Selects := by
  unfold primaryStep
  cases hchained : chainPrimary x found a credential with
  | error e => exact Or.inl (.refl x)
  | ok y =>
      rcases s.settle_keeps_or_selects y with hkeeps | hselects
      · exact Or.inl ((keeps_of_chainPrimary hchained).trans hkeeps)
      · exact Or.inr hselects

variable [Regex.Dialect] {c : PatternCache}

theorem goesOn_of_sendsOn {call : Call} (h : s.SendsOn x call) :
    x.GoesOn (s.after x c call) := by
  cases call with
  | completePrimary q a credential => exact h.elim
  | completeMethod a credential => exact h.elim
  | evaluate q =>
      have hevaluate : s.evaluate x q = (.ok .continueNormally, s.after x c (.evaluate q)) :=
        Prod.ext h rfl
      obtain ⟨-, hy⟩ := evaluate_eq_ok_iff.1 hevaluate
      rw [hy]
      exact ⟨rfl, rfl⟩

/-- A call that does not let the attempt go on keeps the selection or makes one. -/
theorem keeps_or_selects {call : Call} (h : ¬ s.SendsOn x call) :
    x.Keeps (s.after x c call) ∨ (s.after x c call).Selects := by
  cases call with
  | evaluate q => exact evaluate_keeps_or_selects h
  | completePrimary q a credential =>
      change x.Keeps (s.completePrimary x q a credential c).1.2 ∨
        (s.completePrimary x q a credential c).1.2.Selects
      rw [completePrimary_eq]
      cases answer (s.principalDemand x q a) c with
      | error e => exact Or.inl (.refl x)
      | ok found => exact s.primaryStep_keeps_or_selects x found a credential
  | completeMethod a credential =>
      change x.Keeps (s.completeMethod x a credential).2 ∨
        (s.completeMethod x a credential).2.Selects
      left
      cases hx : x.selected with
      | none =>
          rw [completeMethod_of_not_selected hx]
          exact .refl x
      | some r =>
          rw [completeMethod_of_selected hx]
          split
          · exact .refl x
          · exact ⟨rfl, Or.inl rfl⟩

theorem guided_after (h : x.Guided) (call : Call) : (s.after x c call).Guided := by
  by_cases hsends : s.SendsOn x call
  · exact .of_goesOn (goesOn_of_sendsOn hsends)
  · rcases keeps_or_selects (c := c) hsends with hkeeps | hselects
    · exact h.of_keeps hkeeps
    · exact .of_inStep hselects.inStep

theorem Reachable.guided (h : s.Reachable q x) : x.Guided := by
  induction h with
  | begin hbegin =>
      obtain ⟨t, -, rfl⟩ := begin_eq_ok hbegin
      exact Attempt.guided_start t _
  | call call c _ ih => exact guided_after ih call

/-! ## The selection in a run -/

/-- In every attempt that a run reaches the requests of the transaction fit together, the selection
is the one that stands before all others, and what was chained to an attempt with a transaction has
a selection. -/
theorem selection_of_reachable (hs : s.Built) (hx : s.Reachable q x) :
    (∀ t, x.transaction = some t → t.requests ≠ [] ∧
      (∀ r ∈ t.requests, s.registry.contains r.method = true ∧ r.target = t.target) ∧
      t.requests.Pairwise fun r p => r.source ≠ p.source) ∧
    (∀ r, x.selected = some r → ∃ t, x.transaction = some t ∧ r ∈ t.requests ∧
      ∀ p ∈ t.requests, p ≠ r → s.registry.place r < s.registry.place p) ∧
    (x.chain.isEmpty = false → x.transaction.isSome = true → x.selected.isSome = true) := by
  have hsettled := hx.settled hs
  refine ⟨fun t ht => ?_, fun r hr => ?_, hsettled.chained⟩
  · have hsound := hsettled.sound t ht
    exact ⟨hsound.nonempty, fun r hr => ⟨hsound.registered r hr, hsound.targets r hr⟩,
      List.pairwise_map.1 hsound.sources⟩
  · obtain ⟨t, ht, hstrongest⟩ := hsettled.selected r hr
    refine ⟨t, ht, hstrongest.mem, fun p hp hne => ?_⟩
    -- two requests of one place would come from one source
    refine lt_of_le_of_ne (hstrongest.le p hp) fun hplace => hne ?_
    have hp' : s.registry.IsStrongest t.requests p :=
      ⟨hp, fun o ho => hplace ▸ hstrongest.le o ho⟩
    exact hp'.unique (hsettled.sound t ht).sources hstrongest

end

theorem selection_of_afterOtp :
    small.Reachable smallRequest afterOtp ∧
      afterOtp.selected = some ⟨"duo", "app", .serviceDefinition⟩ ∧
      ∃ t, afterOtp.transaction = some t ∧
        (⟨"duo", "app", .serviceDefinition⟩ : MethodRequest) ∈ t.requests := by
  obtain ⟨-, hselected, -⟩ := selection_of_reachable small_built reachable_afterOtp
  obtain ⟨t, ht, hmem, -⟩ := hselected ⟨"duo", "app", .serviceDefinition⟩ rfl
  exact ⟨reachable_afterOtp, rfl, t, ht, hmem⟩

section

variable [Regex.Dialect] {s : Service} {x : Attempt} {q : LoginRequest}

/-- In every attempt that a run reaches the state names the selected method, unless the attempt was
let go on with a selection; and the only calls that lead to this are the evaluations which let an
attempt go on that has a selection. -/
theorem state_names_selection_iff (hx : s.Reachable q x) :
    (x.InStep ↔ (x.selected.isSome = true → x.state ≠ .continueNormally)) ∧
    ∀ call c, x.InStep →
      ((s.after x c call).InStep ↔ (s.SendsOn x call → x.selected = none)) := by
  refine ⟨hx.guided.inStep_iff, fun call c hin => ?_⟩
  by_cases hsends : s.SendsOn x call
  · rw [(goesOn_of_sendsOn hsends).inStep_iff]
    simp [hsends]
  · refine iff_of_true ?_ fun h => absurd h hsends
    rcases keeps_or_selects (c := c) hsends with hkeeps | hselects
    · exact hkeeps.inStep_iff.2 hin
    · exact hselects.inStep

end

theorem state_names_selection_afterOtp :
    small.Reachable smallRequest afterOtp ∧ afterOtp.InStep ∧
      ∀ call c, (small.after afterOtp c call).InStep ↔ ¬ small.SendsOn afterOtp call := by
  obtain ⟨hiff, hcalls⟩ := state_names_selection_iff reachable_afterOtp
  have hin : afterOtp.InStep := hiff.2 fun _ h => by cases h
  refine ⟨reachable_afterOtp, hin, fun call c => ?_⟩
  rw [hcalls call c hin]
  exact imp_congr_right fun _ => iff_of_false (fun h => by cases h) id

/-- The primary step requires the strongest method; when the attempt is evaluated again, without a
session, it is let go on, and the request stays selected. -/
theorem evaluate_leaves_selection_behind :
    small.Reachable smallRequest afterOtp ∧ afterOtp.state = .requireMethod "duo" ∧
      (small.evaluate afterOtp smallRequest).1 = .ok .continueNormally ∧
      (small.evaluate afterOtp smallRequest).2.state = .continueNormally ∧
      (small.evaluate afterOtp smallRequest).2.selected =
        some ⟨"duo", "app", .serviceDefinition⟩ :=
  ⟨reachable_afterOtp, rfl, rfl, rfl, rfl⟩

end Service

end StepUp
