import StepUp.Proofs.Flow.Finishing
import StepUp.Proofs.Flow.Identity
import StepUp.Proofs.Flow.Invariant

/-!
# Progress

A principal who completes the selected method is neither asked again nor refused.  The step writes
the method over whatever the authentication recorded as satisfied, so that the chain records it, and
the method, being selected, is registered.  A recorded method covers itself, provided that the walk
through the recorded names gets to it: every name before it has to be registered
(`Service.covers_of_recorded`).

What the step leaves finishes then, with the methods of the chain and its principal.  That `finish`
never answers that the validation failed holds of every attempt: the composite is validated by
itself, as a chain of one, and what is wrong with it has a message of its own.
-/

namespace StepUp

/-! ## What a chain records -/

namespace Chain

variable {reg : Registry} {c d : Chain} {a : Authentication}
  {credential : Option (String × Credential)}

/-- All methods that the chained authentications record are registered. -/
def Registered (reg : Registry) (c : Chain) : Prop :=
  ∀ a ∈ c.authentications, ∀ n ∈ a.satisfiedMethods, reg.contains n = true

theorem Registered.contains (h : c.Registered reg) {n : String} (hn : n ∈ c.satisfiedMethods) :
    reg.contains n = true := by
  obtain ⟨a, ha, hna⟩ := mem_satisfiedMethods.1 hn
  exact h a ha n hna

theorem Registered.append (h : c.Registered reg)
    (ha : ∀ n ∈ a.satisfiedMethods, reg.contains n = true)
    (happend : c.append a credential = .ok d) : d.Registered reg := by
  intro b hb
  rw [authentications_of_append happend] at hb
  rcases List.mem_append.1 hb with hold | hnew
  · exact h b hold
  · rw [List.mem_singleton.1 hnew]
    exact ha

/-- The chain records what is appended to it. -/
theorem mem_satisfiedMethods_of_append (happend : c.append a credential = .ok d) {n : String}
    (hn : n ∈ a.satisfiedMethods) : n ∈ d.satisfiedMethods := by
  rw [mem_satisfiedMethods, authentications_of_append happend]
  exact ⟨a, by simp, hn⟩

end Chain

namespace Service

section

variable {s : Service} {x : Attempt} {r : MethodRequest} {a : Authentication}

/-- The step of a method leaves no other record in the authentication. -/
theorem mem_satisfiedMethods_recorded {method n : String} :
    n ∈ (recorded a method).satisfiedMethods ↔ n = method := by
  have hvalue : (recorded a method).attributes.get? authnMethodAttribute = some (.str method) := by
    unfold recorded Authentication.setAttribute
    rw [Attributes.get?_insert, if_pos rfl]
    rfl
  rw [Authentication.satisfiedMethods, Attributes.mem_satisfiedMethods, hvalue]
  simp [Json.elements]

/-! ## The step of the selected method -/

variable [Regex.Dialect]

/-- A method that is recorded in the chain is covered, where all that is recorded is registered. -/
theorem covers_of_recorded (hs : s.Built) {chain : Chain}
    (hregistered : chain.Registered s.registry)
    (hmem : r.method ∈ chain.satisfiedMethods) : s.covers chain r = .ok true := by
  rw [hs.covers_eq]
  exact Ranking.covers_of_mem (fun n hn => hregistered.contains hn) hmem

/-- The selected method, completed by the principal of the chain, leaves nothing to do. -/
theorem completeMethod_completed (hs : s.Built) (hx : x.Settled s.registry)
    (hr : x.selected = some r) (hregistered : x.chain.Registered s.registry)
    (hof : x.chain.Of a.principal.id) (credential : Option Credential) :
    ∃ chain, x.chain.append (recorded a r.method) (credential.map (r.method, ·)) = .ok chain ∧
      s.outcome { x with chain } = .ok .completed ∧
      s.completeMethod x a credential = (.ok .completed, { x with chain }) := by
  have hfits : x.chain.Of (recorded a r.method).principal.id := hof
  obtain ⟨chain, happend⟩ := hfits.exists_append (credential.map (r.method, ·))
  have hnew : ∀ n ∈ (recorded a r.method).satisfiedMethods, s.registry.contains n = true := by
    intro n hn
    rw [mem_satisfiedMethods_recorded.1 hn]
    exact hx.contains_selected hr
  have hmem : r.method ∈ chain.satisfiedMethods :=
    Chain.mem_satisfiedMethods_of_append happend (mem_satisfiedMethods_recorded.2 rfl)
  have hcompleted : s.outcome { x with chain } = .ok .completed := by
    rw [outcome_eq_completed_iff]
    intro r' hr'
    have hsame : r = r' := Option.some.inj (hr.symm.trans hr')
    subst hsame
    exact covers_of_recorded hs (hregistered.append hnew happend) hmem
  refine ⟨chain, happend, hcompleted, ?_⟩
  rw [completeMethod_of_selected hr, happend]
  exact Prod.ext hcompleted rfl

/-! ## Finishing -/

omit [Regex.Dialect] in
/-- What finishes is of the principal of the chain. -/
theorem principal_of_finish {now : Time.Timestamp} (h : s.finish x now = .ok a) {id : String}
    (hof : x.chain.Of id) : a.principal.id = id := by
  unfold finish at h
  split at h
  next => cases h
  next composite hcompose =>
      -- whatever the requirement is, what is answered is the composite
      have hcomposite : composite.toAuthentication = a := by
        split at h
        next => cases h
        next =>
            dsimp only at h
            split at h
            next => cases h
            next => exact Except.ok.inj h
            next => cases h
      rw [← hcomposite]
      exact hof.compose hcompose

/-- A composite that does not finish lacks a method or records one that is not registered. -/
theorem finish_ne_validationFailed (hs : s.Built) (x : Attempt) (now : Time.Timestamp)
    (reason : String) : s.finish x now ≠ .error (.validationFailed reason) := by
  cases hempty : x.chain.isEmpty with
  | true =>
      rw [finish_of_isEmpty hempty]
      simp
  | false =>
      cases hout : s.outcome x with
      | error e =>
          obtain ⟨r, -, hcovers⟩ := outcome_fails_iff.1 hout
          rw [hs.covers_eq] at hcovers
          obtain ⟨n, rfl, -⟩ := Ranking.unregistered_of_covers_eq_error hcovers
          rw [finish_of_outcome_error hempty hout]
          simp
      | ok o =>
          cases o with
          | completed =>
              obtain ⟨b, -, hfinish⟩ := finish_of_completed hempty hout now
              rw [hfinish]
              simp
          | requireMethod r =>
              cases hblank : Text.blank r.method with
              | true =>
                  obtain ⟨b, hfinish⟩ := finish_of_blank hempty hout hblank now
                  rw [hfinish]
                  simp
              | false =>
                  rw [finish_of_required hs hempty hout hblank]
                  unfold unmet
                  split <;> simp

/-- In every run, the selected method completes the attempt when the principal of the chain
completes it, and the attempt finishes then, as this principal and with this method.  No attempt at
all fails its validation. -/
theorem method_completes_and_finishes (hs : s.Built) :
    (∀ q x r a credential now, s.Reachable q x → x.selected = some r →
      x.chain.Registered s.registry → x.chain.Of a.principal.id →
      ∃ y, s.completeMethod x a credential = (.ok .completed, y) ∧
        ∃ b, s.finish y now = .ok b ∧ b.principal.id = a.principal.id ∧
          r.method ∈ b.satisfiedMethods) ∧
    ∀ x now reason, s.finish x now ≠ .error (.validationFailed reason) := by
  refine ⟨?_, finish_ne_validationFailed hs⟩
  intro q x r a credential now hx hr hregistered hof
  obtain ⟨chain, happend, hcompleted, hstep⟩ :=
    completeMethod_completed hs (hx.settled hs) hr hregistered hof credential
  refine ⟨_, hstep, ?_⟩
  obtain ⟨b, hmethods, hfinish⟩ :=
    finish_of_completed (Chain.isEmpty_of_append happend) hcompleted now
  have hchain : chain.Of (recorded a r.method).principal.id := Chain.append_of happend
  have hmem : r.method ∈ chain.satisfiedMethods :=
    Chain.mem_satisfiedMethods_of_append happend (mem_satisfiedMethods_recorded.2 rfl)
  exact ⟨b, hfinish, principal_of_finish hfinish hchain, hmethods ▸ hmem⟩

end

/-- A login satisfied the weaker of two methods, and the stronger one is completed with an
authentication that records a method nobody registered: the record is written over. -/
theorem method_completes_after_otp :
    ∃ y, small.completeMethod afterOtp (aliceWith (.str "push")) none = (.ok .completed, y) ∧
      ∃ b, small.finish y .epoch = .ok b ∧ b.principal.id = "alice" ∧
        "duo" ∈ b.satisfiedMethods := by
  have hchain : afterOtp.chain.authentications = [aliceWith (.str "otp")] := rfl
  refine (method_completes_and_finishes small_built).1 smallRequest afterOtp
    ⟨"duo", "app", .serviceDefinition⟩ (aliceWith (.str "push")) none .epoch reachable_afterOtp rfl
    ?_ ?_
  · intro b hb
    rw [hchain, List.mem_singleton] at hb
    subst hb
    decide
  · intro b hb
    rw [hchain, List.mem_singleton] at hb
    subst hb
    rfl

end Service

end StepUp
