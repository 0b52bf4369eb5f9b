import StepUp.Proofs.Flow.Operations
import StepUp.Proofs.Ranking.Coverage

/-!
# The three answers of the escalation decision

The decision looks at the transaction, at the session and at the wish to renew, one after the other,
and an answer that is found early hides what comes later.  Here each of its answers is described by
the whole input, under a ranking by ranks:

* a step-up is due (`Ranking.StepUpDue`): the transaction honors a request with a name, a session id
  came with the login, and of the session nothing is known, or it satisfied weaker methods only and
  is not to be renewed;
* the ranking meets a name that is not registered (`Ranking.Meets`): that of a request, which
  pre-empts all else, or one that the session satisfied, if the decision comes to look at it and no
  strong method stands before it;
* in every other case the login goes on.

`Ranking.decide_iff` says that these are the answers, each exactly where it is described.
-/

namespace StepUp

/-! ## Any ranking -/

namespace Strategy

variable {k : Strategy} {input : EscalationInput} {r : MethodRequest}

theorem decide_eq_requireMethod_iff : k.decide input = .ok (.requireMethod r) ↔
    ∃ t, input.transaction = some t ∧ k.highest t = .ok (some r) ∧ input.hasSession = true ∧
      Text.blank r.method = false ∧ ∀ a, input.session = some a →
        k.covers a.satisfiedMethods r.method = .ok false ∧ input.renew = false := by
  refine ⟨of_decide_eq_requireMethod, ?_⟩
  rintro ⟨t, ht, hhigh, hid, hname, hweak⟩
  cases hsession : input.session with
  | none => simp [decide_of_unknown_session hsession ht hhigh, hid, hname]
  | some a =>
      obtain ⟨hcovers, hrenew⟩ := hweak a hsession
      simp [decide, ht, hhigh, hid, hname, hsession, hcovers, hrenew]

/-- The decision fails where the ranking does: when it is asked which request to honor, or whether
the session covers it. -/
theorem decide_eq_error_iff {e : ServiceError} : k.decide input = .error e ↔
    ∃ t, input.transaction = some t ∧ (k.highest t = .error e ∨
      ∃ r a, k.highest t = .ok (some r) ∧ input.hasSession = true ∧ Text.blank r.method = false ∧
        input.session = some a ∧ k.covers a.satisfiedMethods r.method = .error e) := by
  unfold decide
  cases ht : input.transaction with
  | none => simp
  | some t =>
      simp only [Option.some.injEq, exists_eq_left']
      cases hhigh : k.highest t with
      | error e' => simp
      | ok best =>
          cases best with
          | none => simp
          | some r =>
              simp only [Except.ok.injEq, Option.some.injEq, reduceCtorEq, false_or,
                exists_and_left, exists_eq_left']
              -- the session is looked at only where one came and the method has a name
              cases hid : input.hasSession with
              | false => simp
              | true =>
                  cases hname : Text.blank r.method with
                  | true => simp
                  | false =>
                      cases hsession : input.session with
                      | none => simp
                      | some a =>
                          cases hcovers : k.covers a.satisfiedMethods r.method with
                          | error e' => simp [hcovers]
                          | ok covered => simp [hcovers]

end Strategy

/-! ## A ranking by ranks -/

namespace Ranking

variable {k : Ranking} {input : EscalationInput} {t : Transaction} {r : MethodRequest}

/-- A transaction honors a request: every method in it is registered, and the request is the first
of the strongest ones. -/
structure Honors (k : Ranking) (t : Transaction) (r : MethodRequest) : Prop where
  registered : ∀ q ∈ t.requests, k.registry.contains q.method = true
  first : k.registry.IsFirstStrongest t.requests r

theorem highest_eq_some_iff : k.highest t = .ok (some r) ↔ k.Honors t r := by
  rw [highest, Registry.strongest_eq_some_iff]
  exact ⟨fun h => ⟨h.1, h.2⟩, fun h => ⟨h.registered, h.first⟩⟩

theorem Honors.contains (h : k.Honors t r) : k.registry.contains r.method = true :=
  h.registered r h.first.mem

/-- All that the session satisfied is registered and weaker than a method. -/
def Weaker (k : Ranking) (session : Authentication) (method : String) : Prop :=
  ∀ n ∈ session.satisfiedMethods,
    k.registry.contains n = true ∧ ¬ k.registry.AtLeast n method

/-- The login has to step up to a request. -/
structure StepUpDue (k : Ranking) (input : EscalationInput) (r : MethodRequest) : Prop where
  honored : ∃ t, input.transaction = some t ∧ k.Honors t r
  withSession : input.hasSession = true
  named : Text.blank r.method = false
  insufficient : input.session = none ∨
    ∃ a, input.session = some a ∧ k.Weaker a r.method ∧ input.renew = false

/-- The ranking meets a name that is not registered. -/
inductive Meets (k : Ranking) (input : EscalationInput) : String → Prop
  /-- The first of the requests whose method is not registered. -/
  | requested (t : Transaction) (q : MethodRequest) : input.transaction = some t →
      t.requests.find? (fun q => !k.registry.contains q.method) = some q → Meets k input q.method
  /-- The first name that the session satisfied, all those before it being weaker than the method
  that it is compared with. -/
  | satisfied (t : Transaction) (r : MethodRequest) (a : Authentication) (n : String) :
      input.transaction = some t → k.Honors t r → input.hasSession = true →
      Text.blank r.method = false → input.session = some a →
      n ∈ a.satisfiedMethods → k.registry.contains n = false →
      (∀ o ∈ a.satisfiedMethods, o < n →
        k.registry.contains o = true ∧ ¬ k.registry.AtLeast o r.method) →
      Meets k input n

theorem decide_eq_requireMethod_iff :
    k.decide input = .ok (.requireMethod r) ↔ k.StepUpDue input r := by
  have hcovers : ∀ {t}, k.Honors t r → ∀ a : Authentication,
      k.strategy.covers a.satisfiedMethods r.method = .ok false ↔ k.Weaker a r.method :=
    fun hhonors a => covers_eq_false_iff hhonors.contains
  rw [decide, Strategy.decide_eq_requireMethod_iff]
  constructor
  · rintro ⟨t, ht, hhigh, hid, hname, hweak⟩
    have hhonors : k.Honors t r := highest_eq_some_iff.1 hhigh
    refine ⟨⟨t, ht, hhonors⟩, hid, hname, ?_⟩
    cases hsession : input.session with
    | none => exact Or.inl rfl
    | some a =>
        obtain ⟨hfalse, hrenew⟩ := hweak a hsession
        exact Or.inr ⟨a, rfl, (hcovers hhonors a).1 hfalse, hrenew⟩
  · rintro ⟨⟨t, ht, hhonors⟩, hid, hname, hinsufficient⟩
    refine ⟨t, ht, highest_eq_some_iff.2 hhonors, hid, hname, ?_⟩
    intro a ha
    rcases hinsufficient with hnone | ⟨a', ha', hweak, hrenew⟩
    · rw [ha] at hnone
      cases hnone
    · rw [ha] at ha'
      cases ha'
      exact ⟨(hcovers hhonors a).2 hweak, hrenew⟩

theorem decide_eq_error_iff {e : ServiceError} :
    k.decide input = .error e ↔ ∃ n, e = .unregisteredMethod n ∧ k.Meets input n := by
  rw [decide, Strategy.decide_eq_error_iff]
  constructor
  · rintro ⟨t, ht, hhigh | ⟨r, a, hhigh, hid, hname, ha, hcovers⟩⟩
    · obtain ⟨q, hq, rfl⟩ := Registry.strongest_eq_error_iff.1 hhigh
      exact ⟨q.method, rfl, .requested t q ht hq⟩
    · have hhonors : k.Honors t r := highest_eq_some_iff.1 hhigh
      obtain ⟨n, rfl, -⟩ := unregistered_of_covers_eq_error hcovers
      obtain ⟨hn, hmissing, hbefore⟩ := (covers_eq_error_iff hhonors.contains).1 hcovers
      exact ⟨n, rfl, .satisfied t r a n ht hhonors hid hname ha hn hmissing hbefore⟩
  · rintro ⟨n, rfl, hmeets⟩
    cases hmeets with
    | requested t q ht hq =>
        exact ⟨t, ht, Or.inl (Registry.strongest_eq_error_iff.2 ⟨q, hq, rfl⟩)⟩
    | satisfied t r a _ ht hhonors hid hname ha hn hmissing hbefore =>
        have hcovers := (covers_eq_error_iff hhonors.contains).2 ⟨hn, hmissing, hbefore⟩
        exact ⟨t, ht, Or.inr ⟨r, a, highest_eq_some_iff.2 hhonors, hid, hname, ha, hcovers⟩⟩

/-- The decision requires a request exactly where a step-up to it is due, fails exactly with a name
that the ranking meets and does not know, and lets the login go on in every other case. -/
theorem decide_iff (k : Ranking) (input : EscalationInput) :
    (∀ r, k.decide input = .ok (.requireMethod r) ↔ k.StepUpDue input r) ∧
    (∀ e, k.decide input = .error e ↔ ∃ n, e = .unregisteredMethod n ∧ k.Meets input n) ∧
    (k.decide input = .ok .continueNormally ↔
      (∀ r, ¬ k.StepUpDue input r) ∧ ∀ n, ¬ k.Meets input n) := by
  refine ⟨fun r => decide_eq_requireMethod_iff, fun e => decide_eq_error_iff, ?_⟩
  constructor
  · intro hcontinue
    constructor
    · intro r hdue
      rw [decide_eq_requireMethod_iff.2 hdue] at hcontinue
      cases hcontinue
    · intro n hmeets
      rw [decide_eq_error_iff.2 ⟨n, rfl, hmeets⟩] at hcontinue
      cases hcontinue
  · rintro ⟨hnotdue, hknown⟩
    cases hdecide : k.decide input with
    | error e =>
        obtain ⟨n, -, hmeets⟩ := decide_eq_error_iff.1 hdecide
        exact absurd hmeets (hknown n)
    | ok decision =>
        cases decision with
        | continueNormally => rfl
        | requireMethod r => exact absurd (decide_eq_requireMethod_iff.1 hdecide) (hnotdue r)

end Ranking

end StepUp
