import StepUp.Proofs.Flow.Effects

/-!
# The identity of an attempt

The authentications of a chain are of one principal, since `Chain.append` refuses any other.  The
transaction records an authentication as well, the primary one, and this file is about how it goes
with the chain (`Attempt.Aligned`).

A primary authentication comes from one of two places (`Attempt.Rooted`).  The primary step records
what it has chained, so this one is of the principal of the chain.  The transaction that `begin`
makes records the authentication of the session, and nothing replaces it.  When an evaluation
requires a method, the session begins the chain, and the two go together.  But an attempt with a
session may be let go on, or its login renewed, and then the chain begins with whoever logs in.

So there is one way for the two to part (`Service.TakesOver`): a primary step begins the chain of an
attempt whose session is that of another principal.  Whether this has happened in a run decides
whether its attempt is aligned (`Service.one_principal_iff`).
-/

namespace StepUp

open Cached

/-! ## The identities of an attempt -/

namespace Attempt

/-- The primary authentication of the transaction is of the principal of the chain. -/
def Aligned (x : Attempt) : Prop :=
  ∀ t p, x.transaction = some t → t.primary = some p → x.chain.Of p.principal.id

/-- Where the identities of an attempt come from. -/
structure Rooted (x : Attempt) : Prop where
  /-- All that was chained is of one principal. -/
  uniform : ∃ id, x.chain.Of id
  /-- The primary authentication was chained, or is that of the session. -/
  primary : ∀ t p, x.transaction = some t → t.primary = some p →
    p ∈ x.chain.authentications ∨ x.session = some p
  /-- Where a session has to step up, it has begun the chain. -/
  seeded : x.selected.isSome = true → x.session.isSome = true → x.chain.isEmpty = false

variable {x y : Attempt}

theorem aligned_of_isEmpty (h : x.chain.isEmpty = true) : x.Aligned :=
  fun _ p _ _ => Chain.of_isEmpty h p.principal.id

/-- What was chained has the one principal of the chain. -/
theorem Rooted.of_mem (h : x.Rooted) {p : Authentication} (hp : p ∈ x.chain.authentications) :
    x.chain.Of p.principal.id := by
  obtain ⟨id, hid⟩ := h.uniform
  exact hid p hp ▸ hid

/-- Before anything is chained, the primary authentication is that of the session. -/
theorem Rooted.session_of_isEmpty (h : x.Rooted) (hempty : x.chain.isEmpty = true)
    {t : Transaction} {p : Authentication} (ht : x.transaction = some t) (hp : t.primary = some p) :
    x.session = some p := by
  have hnil : x.chain.authentications = [] := by simpa [Chain.isEmpty] using hempty
  rcases h.primary t p ht hp with hmem | hsession
  · rw [hnil] at hmem
    cases hmem
  · exact hsession

end Attempt

namespace Service

section

variable [Regex.Dialect] {s : Service} {x y z : Attempt} {q : LoginRequest} {c : PatternCache}
  {call : Call}

/-! ## Every attempt of a run is rooted -/

theorem isEmpty_of_begin (h : answer (s.begin q) c = .ok x) : x.chain.isEmpty = true := by
  obtain ⟨-, -, -, hchain⟩ := of_begin h
  rw [hchain]
  rfl

theorem rooted_begin (h : answer (s.begin q) c = .ok x) : x.Rooted where
  uniform := ⟨"", Chain.of_isEmpty (isEmpty_of_begin h) ""⟩
  primary := by
    intro t p ht hp
    obtain ⟨haggregate, hsession, -⟩ := of_begin h
    rw [ht] at haggregate
    have hprimary := (Aggregator.new_of_aggregate haggregate).2
    exact Or.inr (hsession.trans (hprimary.symm.trans hp))
  seeded := by
    intro hselected
    obtain ⟨-, -, hnone, -⟩ := of_begin h
    rw [hnone] at hselected
    cases hselected

theorem Effect.seeded (h : s.Effect x c call y) (hx : x.Rooted)
    (hselected : y.selected.isSome = true)
    (hsession : y.session.isSome = true) : y.chain.isEmpty = false := by
  cases h with
  | kept => exact hx.seeded hselected hsession
  | wentOn q => exact hx.seeded hselected hsession
  | required q r _ => exact isEmpty_seededChain hsession
  | primary q a credential found chained _ hchained =>
      obtain ⟨-, -, happend, -⟩ := chainPrimary_eq_ok hchained
      rw [chain_settle]
      exact Chain.isEmpty_of_append happend
  | method a credential r chain _ happend => exact Chain.isEmpty_of_append happend

theorem Effect.rooted (h : s.Effect x c call y) (hx : x.Rooted) : y.Rooted where
  uniform := by
    rcases h.chain with hsame | ⟨a, credential, happend⟩
    · rw [hsame]
      exact hx.uniform
    · exact ⟨a.principal.id, Chain.append_of happend⟩
  primary := by
    intro u p hu hp
    rcases h.primary_or_chained hu hp with ⟨t, ht, hold⟩ | hchained
    · rw [h.session]
      refine (hx.primary t p ht hold).imp (fun hmem => ?_) id
      rcases h.chain with hsame | ⟨a, credential, happend⟩
      · rw [hsame]
        exact hmem
      · rw [Chain.authentications_of_append happend]
        exact List.mem_append_left _ hmem
    · exact Or.inl hchained
  seeded := h.seeded hx

theorem Leads.rooted (h : s.Leads x y) (hx : x.Rooted) : y.Rooted := by
  induction h with
  | refl => exact hx
  | call call c _ ih => exact (effect_after s _ c call).rooted ih

/-- Every attempt that a run reaches is rooted. -/
theorem Reachable.rooted (h : s.Reachable q x) : x.Rooted := by
  obtain ⟨c, begun, hbegin, hleads⟩ := h.exists_begun
  exact hleads.rooted (rooted_begin hbegin)

/-! ## How chain and transaction part -/

/-- A primary step begins the chain of an attempt whose transaction records another principal. -/
def TakesOver (s : Service) (x : Attempt) (c : PatternCache) : Call → Prop
  | .completePrimary q a credential =>
      x.chain.isEmpty = true ∧
      (s.completePrimary x q a credential c).1.2.chain.isEmpty = false ∧
      ∃ t p, x.transaction = some t ∧ t.primary = some p ∧ p.principal.id ≠ a.principal.id
  | .evaluate _ => False
  | .completeMethod _ _ => False

/-- What the primary step chains is of the principal that it brings. -/
theorem Effect.of_login {a : Authentication} {credential : Option Credential}
    (h : s.Effect x c (.completePrimary q a credential) y) :
    y.chain = x.chain ∨ y.chain.Of a.principal.id := by
  cases h with
  | kept => exact Or.inl rfl
  | primary _ _ _ found chained _ hchained =>
      obtain ⟨-, -, happend, -⟩ := chainPrimary_eq_ok hchained
      rw [chain_settle]
      exact Or.inr (Chain.append_of happend)

/-- The chain of an attempt with a session begins with the session or with the primary step. -/
theorem Effect.of_first (h : s.Effect x c call y) (hx : x.Rooted) (hempty : x.chain.isEmpty = true)
    (hne : y.chain.isEmpty = false) {p : Authentication} (hsession : x.session = some p) :
    y.chain.Of p.principal.id ∨ ∃ q a credential, call = .completePrimary q a credential := by
  cases h with
  | kept => simp [hempty] at hne
  | wentOn q => simp [hempty] at hne
  | required q r _ =>
      rcases seededChain_eq_or_append x with hsame | ⟨a, -, ha, happend⟩
      · change (seededChain x).isEmpty = false at hne
        simp [hsame, hempty] at hne
      · rw [hsession] at ha
        cases ha
        exact Or.inl (Chain.append_of happend)
  | primary q a credential found chained _ _ => exact Or.inr ⟨q, a, credential, rfl⟩
  | method a credential r chain hr _ =>
      -- a method is selected, so the session has begun the chain already
      have hbegun := hx.seeded (by simp [hr]) (by simp [hsession])
      simp [hempty] at hbegun

/-- A call keeps an attempt aligned, unless another principal takes over. -/
theorem aligned_or_takesOver (hx : x.Rooted) (h : x.Aligned) (c : PatternCache) (call : Call) :
    (s.after x c call).Aligned ∨ s.TakesOver x c call := by
  have heffect := effect_after s x c call
  by_cases htakes : s.TakesOver x c call
  · exact Or.inr htakes
  left
  intro u p hu hp
  rcases heffect.primary_or_chained hu hp with ⟨t, ht, hold⟩ | hchained
  · -- the primary authentication was there before the call
    rcases heffect.chain with hsame | ⟨b, credential, happend⟩
    · rw [hsame]
      exact h t p ht hold
    · cases hempty : x.chain.isEmpty with
      | false => exact (h t p ht hold).append hempty happend
      | true =>
          have hne := Chain.isEmpty_of_append happend
          have hsession := hx.session_of_isEmpty hempty ht hold
          rcases heffect.of_first hx hempty hne hsession with hof | ⟨q, a, credential, rfl⟩
          · exact hof
          · have hlogin :
                (s.after x c (.completePrimary q a credential)).chain.Of a.principal.id := by
              refine heffect.of_login.resolve_left fun hsame => ?_
              rw [hsame, hempty] at hne
              cases hne
            by_cases hid : p.principal.id = a.principal.id
            · rw [hid]
              exact hlogin
            · exact absurd ⟨hempty, hne, t, p, ht, hold, hid⟩ htakes
  · exact (heffect.rooted hx).of_mem hchained

/-- An attempt that was taken over is not aligned. -/
theorem not_aligned_of_takesOver (h : s.TakesOver x c call) : ¬ (s.after x c call).Aligned := by
  cases call with
  | evaluate q => exact h.elim
  | completeMethod a credential => exact h.elim
  | completePrimary q a credential =>
      obtain ⟨hempty, hne, t, p, ht, hp, hother⟩ := h
      have heffect := effect_after s x c (.completePrimary q a credential)
      intro haligned
      obtain ⟨u, hu, hcontinues⟩ := heffect.transaction ht
      have hof := haligned u p hu (hcontinues.primary p hp)
      rcases heffect.of_login with hsame | hlogin
      · change (s.after x c (.completePrimary q a credential)).chain.isEmpty = false at hne
        rw [hsame, hempty] at hne
        cases hne
      · exact hother (hof.unique hlogin hne)

/-- Chain and transaction only go on, so what is aligned in the end was aligned before. -/
theorem Leads.aligned (h : s.Leads x y) (hy : y.Aligned) : x.Aligned := by
  intro t p ht hp
  obtain ⟨u, hu, hcontinues⟩ := h.transaction ht
  exact (hy u p hu (hcontinues.primary p hp)).shorter h.chain

/-! ## Runs -/

/-- An attempt is aligned where nobody has taken over on the way to it. -/
theorem aligned_of_leads (hx : x.Rooted) (haligned : x.Aligned) (hy : s.Leads x y)
    (hkept : ∀ z call c, s.Leads x z → s.Leads (s.after z c call) y → ¬ s.TakesOver z c call) :
    y.Aligned := by
  induction hy with
  | refl => exact haligned
  | @call w call c hw ih =>
      have hbefore : w.Aligned :=
        ih fun z call' c' hz hzw => hkept z call' c' hz (.call call c hzw)
      exact (aligned_or_takesOver (hw.rooted hx) hbefore c call).resolve_right
        (hkept w call c hw .refl)

/-- All that was chained in a run is of one principal.  The primary authentication of the
transaction is of this principal too, exactly where no primary step has begun the chain of an
attempt whose transaction records another principal; and where it is of another, it is that of the
session. -/
theorem one_principal_iff (hbegin : answer (s.begin q) c = .ok x) (hy : s.Leads x y) :
    (∀ a ∈ y.chain.authentications, ∀ b ∈ y.chain.authentications,
      a.principal.id = b.principal.id) ∧
    (y.Aligned ↔
      ∀ z call c', s.Leads x z → s.Leads (s.after z c' call) y → ¬ s.TakesOver z c' call) ∧
    ∀ t p, y.transaction = some t → t.primary = some p →
      y.chain.Of p.principal.id ∨ s.sessionOf q = some p := by
  have hx := rooted_begin hbegin
  have hrooted := hy.rooted hx
  refine ⟨fun a ha b hb => ?_, ⟨fun haligned z call c' _ hzy htakes => ?_, ?_⟩, ?_⟩
  · exact hrooted.of_mem hb a ha
  · exact not_aligned_of_takesOver htakes (hzy.aligned haligned)
  · exact aligned_of_leads hx (Attempt.aligned_of_isEmpty (isEmpty_of_begin hbegin)) hy
  · intro t p ht hp
    obtain ⟨-, hsession, -⟩ := of_begin hbegin
    rw [← hsession, ← hy.session]
    exact (hrooted.primary t p ht hp).imp_left hrooted.of_mem

end

/-- A login to the application of the small service, with a session. -/
def sessionRequest : LoginRequest :=
  { serviceId := "app", sessionId := some "TGT-1" }

/-- The attempt with which such a login begins. -/
def sessionAttempt (a : Authentication) : Attempt :=
  .start (some { Transaction.ofRequest ⟨"duo", "app", .serviceDefinition⟩ with primary := some a })
    (some a)

/-- The small service with a session that satisfied the weaker of two methods. -/
def withOtpSession : Service :=
  smallWithSession (aliceWith (.str "otp"))

/-- The attempt with which a login to it begins. -/
def otpSessionAttempt : Attempt :=
  sessionAttempt (aliceWith (.str "otp"))

/-- A session that satisfies the weaker of two methods has to step up: it begins the chain, and in
the run so far nobody has taken over. -/
theorem one_principal_after_stepUp :
    answer (withOtpSession.begin sessionRequest) .empty = .ok otpSessionAttempt ∧
      ∃ y, withOtpSession.evaluate otpSessionAttempt sessionRequest =
          (.ok (.requireMethod ⟨"duo", "app", .serviceDefinition⟩), y) ∧
        y.chain.authentications = [aliceWith (.str "otp")] ∧
        ∀ z call c, withOtpSession.Leads otpSessionAttempt z →
          withOtpSession.Leads (withOtpSession.after z c call) y →
          ¬ withOtpSession.TakesOver z c call := by
  have hbegin : answer (withOtpSession.begin sessionRequest) .empty = .ok otpSessionAttempt := rfl
  have hleads := Leads.call (.evaluate sessionRequest) .empty
    (.refl (s := withOtpSession) (x := otpSessionAttempt))
  obtain ⟨-, haligned, -⟩ := one_principal_iff hbegin hleads
  refine ⟨hbegin, _, rfl, rfl, haligned.1 ?_⟩
  intro t p ht hp
  cases ht
  cases hp
  intro b hb
  rw [List.mem_singleton.1 hb]

/-- An authentication of a second principal. -/
def bob : Authentication :=
  { principal := ⟨"bob", .empty⟩ }

/-- One principal has a session that is strong enough, and another one logs in: the chain is of the
second, and the transaction records the first. -/
theorem login_over_session_of_another :
    (smallWithSession (aliceWith (.str "duo"))).Built ∧
      ∃ y, (smallWithSession (aliceWith (.str "duo"))).Reachable sessionRequest y ∧
        y.chain.authentications = [bob] ∧
        ∃ t p, y.transaction = some t ∧ t.primary = some p ∧ p.principal.id = "alice" ∧
          p.principal.id ≠ bob.principal.id := by
  have hbegin : answer ((smallWithSession (aliceWith (.str "duo"))).begin sessionRequest) .empty =
      .ok (sessionAttempt (aliceWith (.str "duo"))) := rfl
  refine ⟨smallWithSession_built _, _, .call (.completePrimary sessionRequest bob none) .empty
    (.begin hbegin), rfl, _, _, rfl, rfl, rfl, by decide⟩

end Service

end StepUp
