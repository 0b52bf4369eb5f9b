import StepUp.Proofs.Flow.Invariant
import StepUp.Proofs.Resolution.SessionId

/-!
# Logins with an unknown session

A login may come with the id of a session of which nothing is known.  The decision then requires the
strongest request of the transaction at once, and nothing is looked for in the principal any more.
Without an id the decision is deferred: the primary step looks for a request in the principal, and
selects the strongest of all.

Both logins begin with the same transaction, since no resolver reads the id.  So the unknown session
is left with the weaker requirement in one case only, which `PrincipalOutranks` describes: a method
is required at once, and the principal demands a stronger one.
-/

namespace StepUp

open Cached

namespace Service

section

variable [Regex.Dialect] {s : Service} {q : LoginRequest} {a : Authentication}
  {credential : Option Credential} {x y : Attempt} {r m : MethodRequest}

/-- The request that is required of a session of which nothing is known: the strongest one of the
transaction, unless its method is blank. -/
def RequiredAtOnce (s : Service) (q : LoginRequest) (r : MethodRequest) : Prop :=
  ∃ t, answer (s.aggregator.aggregate (s.context q none)) .empty = .ok (some t) ∧
    s.registry.IsStrongest t.requests r ∧ Text.blank r.method = false

/-- The principal of an authentication demands a method for which the one that is required at once
is too weak. -/
def PrincipalOutranks (s : Service) (q : LoginRequest) (a : Authentication) : Prop :=
  ∃ r demanded, s.RequiredAtOnce q r ∧
    answer (s.aggregator.resolvePrincipal (s.context q (some a))) .empty = .ok (some demanded) ∧
    ¬ s.registry.AtLeast r.method demanded.method

/-! ## The decision on an unknown session -/

theorem evaluate_of_required_at_once (hs : s.Built) {t : Transaction}
    (ht : x.transaction = some t) (hsound : t.Sound s.registry) (hsession : x.session = none)
    (hid : q.session?.isSome = true) (hr : s.registry.IsStrongest t.requests r)
    (hblank : Text.blank r.method = false) {d : Decision} (h : s.evaluate x q = (.ok d, y)) :
    y.transaction = some t ∧ y.selected = some r := by
  obtain ⟨best, hbest, hstrongest⟩ := hsound.exists_strongest
  have hhigh : s.strategy.highest t = .ok (some r) := by
    rw [hs.strategy_eq, hr.unique hsound.sources hstrongest]
    exact hbest
  have hdecide : s.strategy.decide (escalationInput x q) = .ok (.requireMethod r) := by
    rw [Strategy.decide_of_unknown_session (t := t) hsession ht hhigh]
    simp [escalationInput, hid, hblank]
  rw [evaluate_of_require hdecide] at h
  cases h
  exact ⟨ht, rfl⟩

/-- Without an id, or where nothing can be required, the attempt goes on as it is. -/
theorem evaluate_of_deferred (hs : s.Built) {d : Decision} (h : s.evaluate x q = (.ok d, y))
    (hdeferred : ∀ t r, q.session?.isSome = true → x.transaction = some t →
      s.registry.IsStrongest t.requests r → Text.blank r.method = true) :
    y = { x with state := .continueNormally } := by
  obtain ⟨hdecide, rfl⟩ := evaluate_eq_ok_iff.1 h
  cases d with
  | continueNormally => rfl
  | requireMethod r =>
      obtain ⟨t, ht, hhigh, hid, hblank, -⟩ := Strategy.of_decide_eq_requireMethod hdecide
      rw [hs.strategy_eq] at hhigh
      have hstrongest := (Registry.isStrongest_of_strongest hhigh).2
      rw [hdeferred t r hid ht hstrongest] at hblank
      cases hblank

/-! ## The selection of a login -/

/-- An unknown session is left with the request that is required at once. -/
theorem Login.selected_at_once (hs : s.Built) (hsession : s.sessionOf q = none)
    (hid : q.session?.isSome = true) (hlogin : s.Login q a credential x)
    (hr : s.RequiredAtOnce q r) : x.selected = some r := by
  obtain ⟨c, begun, d, evaluated, c', o, hbegin, heval, hprimary⟩ := hlogin
  obtain ⟨t, ht, hstrongest, hblank⟩ := hr
  obtain ⟨t', ht', rfl⟩ := begin_eq_ok hbegin
  rw [hsession, Aggregator.steady_aggregate _ _ c .empty, ht] at ht'
  cases ht'
  have hsettled := settled_evaluate (q := q) hs (settled_begin hbegin)
  rw [heval] at hsettled
  obtain ⟨htransaction, hselected⟩ := evaluate_of_required_at_once hs (t := t) rfl
    (Aggregator.sound_of_aggregate ht) hsession hid hstrongest hblank heval
  -- with a selection nothing is looked for in the principal, and the transaction stays
  obtain ⟨found, staged, hfound, hstaged, hiff⟩ := selected_of_completePrimary hs hsettled hprimary
  rw [answer_principalDemand, hselected] at hfound
  cases hfound
  rw [htransaction] at hstaged
  cases hstaged
  exact (hiff r).2 ⟨t, rfl, hstrongest⟩

/-- Any other login without a session ends with the strongest of the requests with which it began
and of the one that the principal demands. -/
theorem Login.selected_deferred (hs : s.Built) (hsession : s.sessionOf q = none)
    (hlogin : s.Login q a credential x)
    (hdeferred : q.session?.isSome = true → ∀ r, ¬ s.RequiredAtOnce q r) :
    ∃ t found staged, answer (s.aggregator.aggregate (s.context q none)) .empty = .ok t ∧
      answer (s.aggregator.resolvePrincipal (s.context q (some a))) .empty = .ok found ∧
      stagedWith t found = .ok staged ∧
      ∀ r, x.selected = some r ↔ ∃ u, staged = some u ∧ s.registry.IsStrongest u.requests r := by
  obtain ⟨c, begun, d, evaluated, c', o, hbegin, heval, hprimary⟩ := hlogin
  obtain ⟨t, ht, rfl⟩ := begin_eq_ok hbegin
  rw [hsession, Aggregator.steady_aggregate _ _ c .empty] at ht
  have hsettled := settled_evaluate (q := q) hs (settled_begin hbegin)
  rw [heval] at hsettled
  have hcontinue := evaluate_of_deferred hs heval fun u r hid hu hr => by
    by_contra hblank
    have hsome : t = some u := hu
    exact hdeferred hid r ⟨u, hsome ▸ ht, hr, by simpa using hblank⟩
  obtain ⟨found, staged, hfound, hstaged, hiff⟩ := selected_of_completePrimary hs hsettled hprimary
  subst hcontinue
  rw [answer_principalDemand] at hfound
  exact ⟨t, found, staged, ht, Aggregator.steady_resolvePrincipal _ _ c' .empty ▸ hfound, hstaged,
    hiff⟩

/-! ## Two logins -/

section SessionId

variable (s : Service) (q : LoginRequest) (id : Option String) (a : Option Authentication)

theorem aggregate_of_session_id :
    s.aggregator.aggregate (s.context { q with sessionId := id } a) =
      s.aggregator.aggregate (s.context q a) :=
  s.aggregator.aggregate_withSession (s.context q a) id

theorem resolvePrincipal_of_session_id :
    s.aggregator.resolvePrincipal (s.context { q with sessionId := id } a) =
      s.aggregator.resolvePrincipal (s.context q a) :=
  s.aggregator.resolvePrincipal_withSession (s.context q a) id

end SessionId

theorem requiredAtOnce_of_session_id (id : Option String) :
    s.RequiredAtOnce { q with sessionId := id } r ↔ s.RequiredAtOnce q r := by
  unfold RequiredAtOnce
  rw [aggregate_of_session_id]

omit [Regex.Dialect] in
/-- The strongest request is as strong as the strongest one after a request was staged, exactly when
it is as strong as the staged one. -/
theorem rankOf_le_strongest_iff {reg : Registry} {t u : Transaction}
    {found : Option MethodRequest} (hstaged : stagedWith (some t) found = .ok (some u))
    (hr : reg.IsStrongest t.requests r) (hm : reg.IsStrongest u.requests m) :
    reg.rankOf r.method ≤ reg.rankOf m.method ↔
      ∀ demanded, found = some demanded → reg.rankOf r.method ≤ reg.rankOf demanded.method := by
  have hrequests := requests_of_stagedWith hstaged
  constructor
  · intro h demanded hdemanded
    have hmem : demanded ∈ u.requests := by simp [hrequests, hdemanded]
    exact h.trans (Registry.rankOf_le_of_place_le (hm.le demanded hmem))
  · intro h
    have hmem := hm.mem
    rw [hrequests, List.mem_append] at hmem
    rcases hmem with hold | hnew
    · exact Registry.rankOf_le_of_place_le (hr.le m hold)
    · exact h m (Option.mem_toList.1 hnew)

theorem RequiredAtOnce.unique {r' : MethodRequest} (hr : s.RequiredAtOnce q r)
    (hr' : s.RequiredAtOnce q r') : r = r' := by
  obtain ⟨t, ht, hrt, -⟩ := hr
  obtain ⟨t', ht', hrt', -⟩ := hr'
  rw [ht] at ht'
  cases ht'
  exact hrt.unique (Aggregator.sound_of_aggregate ht).sources hrt'

theorem RequiredAtOnce.contains (hr : s.RequiredAtOnce q r) :
    s.registry.contains r.method = true := by
  obtain ⟨t, ht, hrt, -⟩ := hr
  exact (Aggregator.sound_of_aggregate ht).registered r hrt.mem

theorem not_principalOutranks_iff (hr : s.RequiredAtOnce q r) {found : Option MethodRequest}
    (hfound : answer (s.aggregator.resolvePrincipal (s.context q (some a))) .empty = .ok found) :
    ¬ s.PrincipalOutranks q a ↔ ∀ demanded, found = some demanded →
      s.registry.rankOf r.method ≤ s.registry.rankOf demanded.method := by
  have hstrong : ∀ demanded, found = some demanded →
      (s.registry.AtLeast r.method demanded.method ↔
        s.registry.rankOf r.method ≤ s.registry.rankOf demanded.method) := by
    rintro demanded rfl
    exact Registry.atLeast_iff_rankOf_le hr.contains
      (Aggregator.contains_of_resolvePrincipal hfound)
  constructor
  · intro h demanded hdemanded
    rw [← hstrong demanded hdemanded]
    by_contra hweak
    exact h ⟨r, demanded, hr, hdemanded ▸ hfound, hweak⟩
  · rintro h ⟨r', demanded, hr', hdemanded, hweak⟩
    rw [hfound] at hdemanded
    have hsome : found = some demanded := Except.ok.inj hdemanded
    rw [hr'.unique hr] at hweak
    exact hweak ((hstrong demanded hsome).2 (h demanded hsome))

/-- A login with an unknown session ends with a selection when the same login without an id does,
and with one that is as strong, unless the principal demands a stronger method than the one that is
required at once. -/
theorem unknown_session_as_strong_iff (hs : s.Built) (hq : q.session? = none) {id : String}
    (hid : Text.blank id = false) (hunknown : s.sessions id = none)
    {credential' : Option Credential} (hlogin : s.Login q a credential x)
    (hlogin' : s.Login { q with sessionId := some id } a credential' y)
    (hm : x.selected = some m) :
    ∃ r, y.selected = some r ∧
      (s.registry.AtLeast r.method m.method ↔ ¬ s.PrincipalOutranks q a) := by
  have hsession : s.sessionOf q = none := by simp [sessionOf, hq]
  have hid' : ({ q with sessionId := some id } : LoginRequest).session? = some id := by
    simp [LoginRequest.session?, Text.nonblank?, hid]
  have hsession' : s.sessionOf { q with sessionId := some id } = none := by
    simp [sessionOf, hid', hunknown]
  obtain ⟨t, found, staged, ht, hfound, hstaged, hselected⟩ :=
    hlogin.selected_deferred hs hsession (by simp [hq])
  obtain ⟨u, rfl, hmu⟩ := (hselected m).1 hm
  have hregistered : s.registry.contains m.method = true :=
    (hlogin.reachable.settled hs).contains_selected hm
  by_cases hreq : ∃ r, s.RequiredAtOnce q r
  · obtain ⟨r, hr⟩ := hreq
    refine ⟨r, hlogin'.selected_at_once hs hsession' (by simp [hid'])
      ((requiredAtOnce_of_session_id _).2 hr), ?_⟩
    rw [Registry.atLeast_iff_rankOf_le hr.contains hregistered,
      not_principalOutranks_iff hr hfound]
    obtain ⟨v, hv, hrv, -⟩ := hr
    rw [hv] at ht
    cases ht
    exact rankOf_le_strongest_iff hstaged hrv hmu
  · -- nothing can be required at once, so both logins defer the decision
    obtain ⟨t', found', staged', ht', hfound', hstaged', hselected'⟩ :=
      hlogin'.selected_deferred hs hsession' fun _ r hr =>
        hreq ⟨r, (requiredAtOnce_of_session_id _).1 hr⟩
    rw [aggregate_of_session_id, ht] at ht'
    cases ht'
    rw [resolvePrincipal_of_session_id, hfound] at hfound'
    cases hfound'
    rw [hstaged] at hstaged'
    cases hstaged'
    refine ⟨m, (hselected' m).2 ⟨u, rfl, hmu⟩, iff_of_true (.refl hregistered) ?_⟩
    rintro ⟨r, -, hr, -⟩
    exact hreq ⟨r, hr⟩

end

/-- A login that names a method, for a service that requires none. -/
def namedRequest (method : String) (sessionId : Option String) : LoginRequest :=
  { serviceId := "other", authnMethod := some method, sessionId }

theorem unknown_session_as_strong_as_duo :
    ∃ x y r, small.Login (namedRequest "duo" none) (demandedOf "otp") none x ∧
      small.Login (namedRequest "duo" (some "TGT-unknown")) (demandedOf "otp") none y ∧
      x.selected = some ⟨"duo", "other", .requestParam⟩ ∧ y.selected = some r ∧
      (small.registry.AtLeast r.method "duo" ↔
        ¬ small.PrincipalOutranks (namedRequest "duo" none) (demandedOf "otp")) := by
  have hlogin : small.Login (namedRequest "duo" none) (demandedOf "otp") none _ :=
    ⟨.empty, _, _, _, .empty, _, rfl, rfl, rfl⟩
  have hlogin' : small.Login (namedRequest "duo" (some "TGT-unknown")) (demandedOf "otp") none _ :=
    ⟨.empty, _, _, _, .empty, _, rfl, rfl, rfl⟩
  obtain ⟨r, hr, hstrong⟩ := unknown_session_as_strong_iff small_built rfl (by decide) rfl hlogin
    hlogin' (m := ⟨"duo", "other", .requestParam⟩) rfl
  exact ⟨_, _, r, hlogin, hlogin', rfl, hr, hstrong⟩

/-- The principal demands the strongest method and the request names a weaker one: without an id the
login selects the method of the principal, with the id of an unknown session the weaker one. -/
theorem unknown_session_weakens :
    small.Built ∧ small.sessions "TGT-unknown" = none ∧
      ∃ x y, small.Login (namedRequest "otp" none) (demandedOf "duo") none x ∧
        small.Login (namedRequest "otp" (some "TGT-unknown")) (demandedOf "duo") none y ∧
        x.selected = some ⟨"duo", "other", .principalAttribute⟩ ∧
        y.selected = some ⟨"otp", "other", .requestParam⟩ ∧
        ¬ small.registry.AtLeast "otp" "duo" := by
  have hlogin : small.Login (namedRequest "otp" none) (demandedOf "duo") none _ :=
    ⟨.empty, _, _, _, .empty, _, rfl, rfl, rfl⟩
  have hlogin' : small.Login (namedRequest "otp" (some "TGT-unknown")) (demandedOf "duo") none _ :=
    ⟨.empty, _, _, _, .empty, _, rfl, rfl, rfl⟩
  refine ⟨small_built, rfl, _, _, hlogin, hlogin', rfl, rfl, ?_⟩
  rw [Registry.atLeast_iff_rankOf_le (by decide) (by decide)]
  decide

end Service

end StepUp
