import StepUp.Proofs.Flow.Credentials

/-!
# Attempts grow

A call leaves what an attempt holds, whether it succeeds or fails, but for a credential, whose place
another one of its source may take.  What one call may add is little (`Attempt.Grows`): one
authentication at the end of the chain, a credential source at the end of the sources, and one
request at the end of the requests, which the primary step found in the principal while nothing was
selected.  The session stays, and so does a primary authentication once it is recorded.

The selection is written by two operations, and an evaluation writes it again.  What keeps it is
that it is the answer of the ranking for the transaction (`Attempt.Honored`): with a selection no
request is added any more, so the ranking has nothing new to answer.  Only the primary
authentication may still be recorded, and a ranking of requests does not look at it
(`Strategy.IgnoresPrimary`).  A ranking that does may answer anew, and an evaluation then replaces
what was selected (`Service.selection_replaced_after_login`).
-/

namespace StepUp

open Cached

/-! ## What one call may add -/

namespace Transaction

/-- The requests of a transaction, none if there is no transaction. -/
def requestsOf (t : Option Transaction) : List MethodRequest :=
  t.elim [] (·.requests)

end Transaction

namespace Attempt

/-- The requests that were made so far. -/
def requests (x : Attempt) : List MethodRequest :=
  Transaction.requestsOf x.transaction

/-- An attempt holds what another one holds, and little more. -/
structure Grows (x y : Attempt) : Prop where
  /-- The chain is the same, or one authentication longer. -/
  authentications : ∃ added : Option Authentication,
    y.chain.authentications = x.chain.authentications ++ added.toList
  /-- Sources of credentials are added at the end. -/
  sources : x.chain.sources <+: y.chain.sources
  /-- The requests are the same, or there is one more of the principal; then nothing was
  selected. -/
  requests : ∃ added : Option MethodRequest, y.requests = x.requests ++ added.toList ∧
    ∀ r, added = some r → r.source = .principalAttribute ∧ x.selected = none
  /-- A transaction goes on with its primary authentication. -/
  transaction : ∀ t, x.transaction = some t → ∃ u, y.transaction = some u ∧ t.Continues u
  session : y.session = x.session

end Attempt

namespace Service

variable {s : Service} {x y : Attempt} {q : LoginRequest} {call : Call} {r : MethodRequest}

theorem requestsOf_stagedWith {current staged : Option Transaction} {found : Option MethodRequest}
    (h : stagedWith current found = .ok staged) :
    Transaction.requestsOf staged = Transaction.requestsOf current ++ found.toList := by
  cases current with
  | none =>
      cases found with
      | none =>
          cases h
          rfl
      | some r =>
          cases h
          rfl
  | some t =>
      obtain ⟨u, rfl, -, -⟩ := continues_of_stagedWith h
      exact requests_of_stagedWith h

theorem requestsOf_primed (t : Option Transaction) (a : Authentication) :
    Transaction.requestsOf (t.map (primed · a)) = Transaction.requestsOf t := by
  cases t with
  | none => rfl
  | some t => exact primed_requests t a

/-- What the primary step finds in the principal comes after the other requests. -/
theorem requests_of_chainPrimary {found : Option MethodRequest} {a : Authentication}
    {credential : Option Credential} (h : chainPrimary x found a credential = .ok y) :
    (s.settle y).2.requests = x.requests ++ found.toList := by
  obtain ⟨staged, hstaged, -, htransaction, -⟩ := chainPrimary_eq_ok h
  calc (s.settle y).2.requests
      = Transaction.requestsOf (staged.map (primed · a)) := by
        rw [Attempt.requests, transaction_settle, htransaction]
    _ = Transaction.requestsOf staged := requestsOf_primed staged a
    _ = x.requests ++ found.toList := requestsOf_stagedWith hstaged

variable [Regex.Dialect] {c : PatternCache}

/-- Only the primary step adds a request, the one that it found in the principal. -/
theorem Effect.requests (h : s.Effect x c call y) :
    ∃ added : Option MethodRequest, y.requests = x.requests ++ added.toList ∧
      ∀ r, added = some r → r.source = .principalAttribute ∧ x.selected = none := by
  have hsame : x.requests = x.requests ++ (none : Option MethodRequest).toList := by simp
  cases h with
  | kept => exact ⟨none, hsame, fun _ h => nomatch h⟩
  | wentOn q => exact ⟨none, hsame, fun _ h => nomatch h⟩
  | required q r _ => exact ⟨none, hsame, fun _ h => nomatch h⟩
  | method a credential r chain _ _ => exact ⟨none, hsame, fun _ h => nomatch h⟩
  | primary q a credential found chained hdemand hchained =>
      refine ⟨found, requests_of_chainPrimary hchained, ?_⟩
      rintro r rfl
      exact ⟨(from_principalDemand hdemand).1, (principalDemand_eq_some hdemand).1⟩

/-- A call adds little to an attempt, and what it holds stays. -/
theorem Effect.grows (h : s.Effect x c call y) : x.Grows y where
  authentications := by
    rcases h.chain with hsame | ⟨a, credential, happend⟩
    · exact ⟨none, by simp [hsame]⟩
    · exact ⟨some a, Chain.authentications_of_append happend⟩
  sources := by
    rcases h.chain with hsame | ⟨a, credential, happend⟩
    · exact hsame ▸ List.prefix_rfl
    · exact Chain.sources_of_append happend
  requests := h.requests
  transaction := fun _ ht => h.transaction ht
  session := h.session

end Service

/-! ## What keeps the selection -/

/-- A ranking honors the same request of a transaction, whoever its primary authentication is of. -/
def Strategy.IgnoresPrimary (k : Strategy) : Prop :=
  ∀ t p, k.highest { t with primary := p } = k.highest t

theorem Ranking.ignoresPrimary (k : Ranking) : k.strategy.IgnoresPrimary :=
  fun _ _ => rfl

/-- What is selected is what a ranking honors in the transaction. -/
def Attempt.Honored (k : Strategy) (x : Attempt) : Prop :=
  ∀ r, x.selected = some r → ∃ t, x.transaction = some t ∧ k.highest t = .ok (some r)

namespace Attempt.Grows

variable {k : Strategy} {x y : Attempt} {r : MethodRequest} {t : Transaction}

/-- With a selection a transaction gets no more than a primary authentication. -/
theorem transaction_of_selected (h : x.Grows y) (hr : x.selected = some r)
    (ht : x.transaction = some t) : ∃ p, y.transaction = some { t with primary := p } := by
  obtain ⟨u, hu, hcontinues⟩ := h.transaction t ht
  obtain ⟨added, hrequests, hadded⟩ := h.requests
  -- a request is added only where nothing is selected
  have hnone : added = none := by
    cases added with
    | none => rfl
    | some p =>
        have hunselected := (hadded p rfl).2
        rw [hr] at hunselected
        cases hunselected
  have hsame : u.requests = t.requests := by
    simpa [Attempt.requests, hu, ht, hnone, Transaction.requestsOf] using hrequests
  refine ⟨u.primary, ?_⟩
  rw [hu, ← hcontinues.target, ← hsame]

/-- So a ranking that ignores who is recorded goes on to honor what is selected. -/
theorem highest_of_selected (hk : k.IgnoresPrimary) (h : x.Grows y) (hx : x.Honored k)
    (hr : x.selected = some r) : ∃ u, y.transaction = some u ∧ k.highest u = .ok (some r) := by
  obtain ⟨t, ht, hhigh⟩ := hx r hr
  obtain ⟨p, hu⟩ := h.transaction_of_selected hr ht
  exact ⟨_, hu, (hk t p).trans hhigh⟩

end Attempt.Grows

namespace Service

section

variable [Regex.Dialect] {s : Service} {x y : Attempt} {q : LoginRequest} {c : PatternCache}
  {call : Call} {r : MethodRequest}

theorem honored_begin (h : answer (s.begin q) c = .ok x) (k : Strategy) : x.Honored k := by
  obtain ⟨-, -, hnone, -⟩ := of_begin h
  intro r hr
  rw [hnone] at hr
  cases hr

/-- A selection stays under a ranking that ignores who is recorded. -/
theorem Effect.selected_stays (h : s.Effect x c call y) (hk : s.strategy.IgnoresPrimary)
    (hx : x.Honored s.strategy) (hr : x.selected = some r) : y.selected = some r := by
  obtain ⟨u, hu, hhigh⟩ := h.grows.highest_of_selected hk hx hr
  rcases h.selected with hsame | ⟨u', r', hu', hhigh', hr'⟩
  · rw [hsame, hr]
  · -- the ranking was asked again, about the same requests
    rw [hu] at hu'
    cases hu'
    rw [hhigh] at hhigh'
    cases hhigh'
    exact hr'

theorem Effect.honored (h : s.Effect x c call y) (hk : s.strategy.IgnoresPrimary)
    (hx : x.Honored s.strategy) : y.Honored s.strategy := by
  intro r hr
  rcases h.selected with hsame | ⟨u, r', hu, hhigh, hr'⟩
  · exact h.grows.highest_of_selected hk hx (hsame ▸ hr)
  · rw [hr] at hr'
    cases hr'
    exact ⟨u, hu, hhigh⟩

/-- Under any ranking only an evaluation selects anew where something is selected. -/
theorem Effect.selected_or_required (h : s.Effect x c call y) (hr : x.selected = some r) :
    y.selected = some r ∨ ∃ q r', call = .evaluate q ∧
      s.strategy.decide (escalationInput x q) = .ok (.requireMethod r') ∧ y.selected = some r' := by
  cases h with
  | kept => exact Or.inl hr
  | wentOn q => exact Or.inl hr
  | required q r' hdecide => exact Or.inr ⟨q, r', rfl, hdecide, rfl⟩
  | method a credential r' chain _ _ => exact Or.inl hr
  | primary q a credential found chained _ hchained =>
      obtain ⟨-, -, -, -, hsame⟩ := chainPrimary_eq_ok hchained
      have hkept : chained.selected = some r := hsame.trans hr
      left
      rw [settle_of_selectStrongest (selectStrongest_of_selected hkept)]
      exact hkept

/-! ## Runs -/

theorem Leads.honored (h : s.Leads x y) (hk : s.strategy.IgnoresPrimary)
    (hx : x.Honored s.strategy) : y.Honored s.strategy := by
  induction h with
  | refl => exact hx
  | call call c _ ih => exact (effect_after s _ c call).honored hk ih

theorem Leads.selected_stays (h : s.Leads x y) (hk : s.strategy.IgnoresPrimary)
    (hx : x.Honored s.strategy) (hr : x.selected = some r) : y.selected = some r := by
  induction h with
  | refl => exact hr
  | call call c hbefore ih =>
      exact (effect_after s _ c call).selected_stays hk (hbefore.honored hk hx) ih

theorem Reachable.honored (h : s.Reachable q x) (hk : s.strategy.IgnoresPrimary) :
    x.Honored s.strategy := by
  obtain ⟨c, begun, hbegin, hleads⟩ := h.exists_begun
  exact hleads.honored hk (honored_begin hbegin s.strategy)

/-- Every call, successful or not, leaves what an attempt of a run holds and adds little to it.  In
calls in a row the session and a recorded primary authentication stay, and so does a selection,
where the ranking does not look at the primary authentication; another ranking may replace it when
it is asked again by an evaluation, and nothing else does. -/
theorem attempts_only_grow (hx : s.Reachable q x) :
    (∀ call c, x.Grows (s.after x c call)) ∧
    (∀ y, s.Leads x y → y.session = x.session ∧
      (∀ t p, x.transaction = some t → t.primary = some p →
        ∃ u, y.transaction = some u ∧ u.primary = some p) ∧
      (s.strategy.IgnoresPrimary → ∀ r, x.selected = some r → y.selected = some r)) ∧
    ∀ call c r, x.selected = some r → (s.after x c call).selected = some r ∨
      ∃ q' r', call = .evaluate q' ∧ (s.evaluate x q').1 = .ok (.requireMethod r') ∧
        (s.after x c call).selected = some r' := by
  refine ⟨fun call c => (effect_after s x c call).grows, fun y hy => ⟨hy.session, ?_, ?_⟩, ?_⟩
  · intro t p ht hp
    obtain ⟨u, hu, hcontinues⟩ := hy.transaction ht
    exact ⟨u, hu, hcontinues.primary p hp⟩
  · intro hk r hr
    exact hy.selected_stays hk (hx.honored hk) hr
  · intro call c r hr
    have heffect := effect_after s x c call
    rcases heffect.selected_or_required hr with hsame | ⟨q', r', rfl, hdecide, hr'⟩
    · exact Or.inl hsame
    · refine Or.inr ⟨q', r', rfl, ?_, hr'⟩
      rw [evaluate_of_require hdecide]

end

/-- The strongest method stays selected whatever comes after the primary login. -/
theorem attempts_only_grow_after_otp :
    small.Reachable smallRequest afterOtp ∧ small.strategy.IgnoresPrimary ∧
      afterOtp.selected = some ⟨"duo", "app", .serviceDefinition⟩ ∧
      (∀ call c, afterOtp.Grows (small.after afterOtp c call)) ∧
      ∀ y, small.Leads afterOtp y → y.selected = some ⟨"duo", "app", .serviceDefinition⟩ := by
  have hk : small.strategy.IgnoresPrimary := Ranking.ignoresPrimary _
  obtain ⟨hgrows, hruns, -⟩ := attempts_only_grow reachable_afterOtp
  refine ⟨reachable_afterOtp, hk, rfl, hgrows, fun y hy => ?_⟩
  obtain ⟨-, -, hselected⟩ := hruns y hy
  exact hselected hk _ rfl

/-- A ranking that asks for more once it is known who logs in: it honors the first request while no
primary authentication is recorded, and the last one from then on. -/
def wary : Strategy where
  highest t := .ok (if t.primary.isSome then t.requests.getLast? else t.requests.head?)
  covers := (Ranking.mk smallRegistry).covers

theorem picks_wary : wary.Picks := by
  intro t r h
  have hsome : (if t.primary.isSome then t.requests.getLast? else t.requests.head?) = some r :=
    Except.ok.inj h
  split at hsome
  · exact List.mem_of_getLast? hsome
  · exact List.mem_of_head? hsome

/-- A login that names the weaker method, with a session of which nothing is known. -/
def doubtfulRequest : LoginRequest :=
  { serviceId := "app", authnMethod := some "otp", sessionId := some "TGT-9" }

/-- The attempt with which that login begins. -/
def doubtfulAttempt : Attempt :=
  .start (some { target := "app"
                 requests := [⟨"otp", "app", .requestParam⟩, ⟨"duo", "app", .serviceDefinition⟩] })
    none

/-- The attempt after its first evaluation. -/
def doubted : Attempt :=
  (small.withStrategy wary).after doubtfulAttempt .empty (.evaluate doubtfulRequest)

/-- The attempt after the primary login that follows. -/
def doubtedLogin : Attempt :=
  (small.withStrategy wary).after doubted .empty
    (.completePrimary doubtfulRequest (aliceWith .null) none)

theorem reachable_doubted : (small.withStrategy wary).Reachable doubtfulRequest doubted :=
  .call _ _ (.begin (show answer ((small.withStrategy wary).begin doubtfulRequest) .empty =
    .ok doubtfulAttempt from rfl))

/-- A ranking may pick another request of the same transaction once the primary authentication is
recorded.  The login keeps what the first evaluation selected, and the next evaluation, which asks
the ranking again, replaces it. -/
theorem selection_replaced_after_login :
    small.Built ∧ wary.Picks ∧ (small.withStrategy wary).Reachable doubtfulRequest doubted ∧
      doubted.selected = some ⟨"otp", "app", .requestParam⟩ ∧
      (small.withStrategy wary).Leads doubted doubtedLogin ∧
      doubtedLogin.selected = some ⟨"otp", "app", .requestParam⟩ ∧
      ∃ y, (small.withStrategy wary).evaluate doubtedLogin doubtfulRequest =
          (.ok (.requireMethod ⟨"duo", "app", .serviceDefinition⟩), y) ∧
        (small.withStrategy wary).Leads doubted y ∧
        y.selected = some ⟨"duo", "app", .serviceDefinition⟩ := by
  have hlogin : (small.withStrategy wary).Leads doubted doubtedLogin := .call _ _ .refl
  refine ⟨small_built, picks_wary, reachable_doubted, rfl, hlogin, rfl, _, rfl, ?_, rfl⟩
  exact .call (.evaluate doubtfulRequest) .empty hlogin

end Service

end StepUp
