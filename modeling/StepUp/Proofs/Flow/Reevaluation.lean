import StepUp.Proofs.Flow.Escalation
import StepUp.Proofs.Flow.Identity

/-!
# Evaluating again

An evaluation asks the ranking for a decision, writes it into the attempt and then lets the session
begin the chain, which is the last thing that can be refused.  A flow that evaluates the same login
twice relies on two properties.

* A failing evaluation has written nothing.  The session is chained on an empty chain only, and that
  refuses nobody, so what fails is the decision, before anything is written (`Service.evaluate_eq`).
* A second evaluation repeats the first.  The decision reads the transaction and the session, and
  what is written is the state, the selection and the chain
  (`Service.escalationInput_withDecision`).  Where the first evaluation chained the session, the
  second finds a chain that is begun (`Service.withDecision_withDecision`).

The first holds for every ranking, up to the error, which is one of the ranking's own.
-/

namespace StepUp.Service

variable {s : Service} {k : Ranking} {x y : Attempt} {q : LoginRequest}
  {d : Decision} {a : Authentication}

/-! ## Recording a decision -/

/-- The session of an attempt begins the chain when a decision is recorded. -/
structure BeginsChain (x : Attempt) (d : Decision) (a : Authentication) : Prop where
  required : ∃ r, d = .requireMethod r
  session : x.session = some a
  empty : x.chain.isEmpty = true

@[simp] theorem withDecision_transaction (x : Attempt) (d : Decision) :
    (withDecision x d).transaction = x.transaction := by
  cases d <;> rfl

@[simp] theorem withDecision_session (x : Attempt) (d : Decision) :
    (withDecision x d).session = x.session := by
  cases d <;> rfl

/-- What is decided on an attempt is decided again once it is recorded. -/
theorem escalationInput_withDecision (x : Attempt) (d : Decision) (q : LoginRequest) :
    escalationInput (withDecision x d) q = escalationInput x q := by
  simp [escalationInput]

theorem BeginsChain.chain_eq (h : BeginsChain x d a) :
    (withDecision x d).chain = { x.chain with authentications := [a] } := by
  obtain ⟨⟨r, rfl⟩, hsession, hempty⟩ := h
  simp [withDecision, seededChain, hempty, hsession]

theorem chain_withDecision_of_not (h : ∀ a, ¬ BeginsChain x d a) :
    (withDecision x d).chain = x.chain := by
  cases d with
  | continueNormally => rfl
  | requireMethod r =>
      rcases seededChain_eq_or_append x with hsame | ⟨a, hempty, hsession, -⟩
      · exact hsame
      · exact absurd ⟨⟨r, rfl⟩, hsession, hempty⟩ (h a)

/-- A chain that the session began is not begun again. -/
theorem seededChain_withDecision (x : Attempt) (r : MethodRequest) :
    seededChain (withDecision x (.requireMethod r)) = seededChain x := by
  rcases seededChain_eq_or_append (withDecision x (.requireMethod r)) with
    hsame | ⟨a, hempty, hsession, -⟩
  · exact hsame
  · rw [withDecision_session] at hsession
    have hbegun : (seededChain x).isEmpty = false := isEmpty_seededChain (by simp [hsession])
    rw [show (withDecision x (.requireMethod r)).chain = seededChain x from rfl, hbegun] at hempty
    cases hempty

theorem withDecision_withDecision (x : Attempt) (d : Decision) :
    withDecision (withDecision x d) d = withDecision x d := by
  cases d with
  | continueNormally => rfl
  | requireMethod r =>
      rw [withDecision, seededChain_withDecision]
      rfl

/-! ## Evaluating -/

/-- Evaluating what an evaluation has left repeats it. -/
theorem evaluate_again (h : s.evaluate x q = (.ok d, y)) : s.evaluate y q = (.ok d, y) := by
  obtain ⟨hdecide, rfl⟩ := evaluate_eq_ok_iff.1 h
  rw [evaluate_eq_ok_iff, escalationInput_withDecision]
  exact ⟨hdecide, (withDecision_withDecision x d).symm⟩

/-- An evaluation under a ranking by ranks either fails with an unregistered method, and changes
nothing, or leaves the transaction and the session as they are and the chain as well, unless the
session begins it; and evaluating once more gives the same decision and the same attempt. -/
theorem evaluate_atomic_and_idempotent (hs : s.strategy = k.strategy) (x : Attempt)
    (q : LoginRequest) :
    (∀ e y, s.evaluate x q = (.error e, y) → y = x ∧ ∀ f, e ≠ .rejected f) ∧
    ∀ d y, s.evaluate x q = (.ok d, y) →
      y.transaction = x.transaction ∧ y.session = x.session ∧
      (∀ a, BeginsChain x d a → y.chain = { x.chain with authentications := [a] }) ∧
      ((∀ a, ¬ BeginsChain x d a) → y.chain = x.chain) ∧
      s.evaluate y q = (.ok d, y) := by
  constructor
  · intro e y h
    obtain ⟨hdecide, rfl⟩ := evaluate_eq_error_iff.1 h
    rw [hs] at hdecide
    obtain ⟨n, rfl, -⟩ := Ranking.decide_eq_error_iff.1 hdecide
    exact ⟨rfl, fun f => by simp⟩
  · intro d y h
    have hagain := evaluate_again h
    obtain ⟨-, rfl⟩ := evaluate_eq_ok_iff.1 h
    exact ⟨withDecision_transaction x d, withDecision_session x d, fun a => BeginsChain.chain_eq,
      chain_withDecision_of_not, hagain⟩

/-- An attempt whose one request is for a method that nobody registered. -/
def pushAttempt : Attempt :=
  .start (some (.ofRequest ⟨"push", "app", .requestParam⟩)) none

/-- A session that has to step up is chained once, however often the login is evaluated; and a
request that cannot be ranked leaves its attempt as it was. -/
theorem evaluate_chains_session_once :
    withOtpSession.strategy = (Ranking.mk smallRegistry).strategy ∧
      (∃ y, withOtpSession.evaluate otpSessionAttempt sessionRequest =
          (.ok (.requireMethod ⟨"duo", "app", .serviceDefinition⟩), y) ∧
        y.chain.authentications = [aliceWith (.str "otp")] ∧
        withOtpSession.evaluate y sessionRequest =
          (.ok (.requireMethod ⟨"duo", "app", .serviceDefinition⟩), y)) ∧
      ∃ y, withOtpSession.evaluate pushAttempt sessionRequest =
          (.error (.unregisteredMethod "push"), y) ∧ y = pushAttempt := by
  have hranking : withOtpSession.strategy = (Ranking.mk smallRegistry).strategy := rfl
  obtain ⟨-, hrepeats⟩ :=
    evaluate_atomic_and_idempotent hranking otpSessionAttempt sessionRequest
  obtain ⟨hfails, -⟩ := evaluate_atomic_and_idempotent hranking pushAttempt sessionRequest
  refine ⟨hranking, ?_, ?_⟩
  · obtain ⟨-, -, hbegins, -, hagain⟩ :=
      hrepeats (.requireMethod ⟨"duo", "app", .serviceDefinition⟩) _ rfl
    have hchain := hbegins (aliceWith (.str "otp")) ⟨⟨_, rfl⟩, rfl, rfl⟩
    exact ⟨_, rfl, congrArg Chain.authentications hchain, hagain⟩
  · obtain ⟨hsame, -⟩ := hfails (.unregisteredMethod "push") _ rfl
    exact ⟨_, rfl, hsame⟩

end StepUp.Service
