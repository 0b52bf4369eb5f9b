import StepUp.Proofs.Ranking.Order
import StepUp.Proofs.Resolution.Cached

/-!
# What resolvers gather

The requests of a transaction fit together: their methods are registered, they target the service of
the transaction, and no two come from one source.  An empty transaction is consistent, and adding a
request keeps it so.  The transaction that the resolvers of a service gather is sound, that is
consistent and not empty, and so is every transaction that grows from it.
-/

namespace StepUp

open Cached

/-! ## Sound transactions -/

namespace Transaction

variable {reg : Registry} {t u : Transaction} {r : MethodRequest}

/-- The requests are for the service of the transaction, and no two are of one source. -/
structure Coherent (t : Transaction) : Prop where
  targets : ∀ r ∈ t.requests, r.target = t.target
  sources : (t.requests.map (·.source)).Nodup

/-- The requests of a transaction fit together, and their methods are registered. -/
structure Consistent (reg : Registry) (t : Transaction) : Prop extends Coherent t where
  registered : ∀ r ∈ t.requests, reg.contains r.method = true

/-- The requests fit together, and there are some. -/
structure Sound (reg : Registry) (t : Transaction) : Prop extends Consistent reg t where
  nonempty : t.requests ≠ []

theorem consistent_empty (target : String) : Consistent reg { target } where
  registered := by simp
  targets := by simp
  sources := List.nodup_nil

theorem sound_ofRequest (hr : reg.contains r.method = true) : Sound reg (ofRequest r) where
  registered := by simpa [ofRequest] using hr
  targets := by simp [ofRequest]
  sources := by simp [ofRequest]
  nonempty := by simp [ofRequest]

theorem source_ne_of_not_containsSource {source : MethodSource}
    (h : t.containsSource source = false) : source ∉ t.requests.map (·.source) := by
  simpa [containsSource] using h

theorem add_eq_ok_iff : t.add r = .ok u ↔ r.target = t.target ∧ t.containsSource r.source = false ∧
    u = { t with requests := t.requests ++ [r] } := by
  unfold add
  by_cases htarget : r.target = t.target
  · cases hsource : t.containsSource r.source with
    | true => simp [htarget]
    | false => simp [htarget, eq_comm]
  · simp [htarget]

theorem add_eq_error_iff {f : FlowError} : t.add r = .error f ↔
    t.target ≠ r.target ∧ f = .targetServiceMismatch t.target r.target ∨
      t.target = r.target ∧ t.containsSource r.source = true ∧ f = .duplicateSource r.source := by
  unfold add
  by_cases htarget : t.target = r.target
  · rw [if_neg (not_not.2 htarget.symm)]
    cases t.containsSource r.source <;> simp [htarget, eq_comm (a := f)]
  · simp [htarget, Ne.symm htarget, eq_comm (a := f)]

/-- A request that is not refused fits to those that are there. -/
theorem Coherent.add (ht : t.Coherent) (h : t.add r = .ok u) : u.Coherent := by
  obtain ⟨htarget, hsource, rfl⟩ := add_eq_ok_iff.1 h
  constructor
  · intro q hq
    rcases List.mem_append.1 hq with hq | hq
    · exact ht.targets q hq
    · rw [List.mem_singleton.1 hq]
      exact htarget
  · have hnew := source_ne_of_not_containsSource hsource
    rw [List.map_append, List.map_singleton, ← List.concat_eq_append]
    exact ht.sources.concat hnew

/-- A registered request that is not refused leaves the transaction sound. -/
theorem Consistent.add (ht : t.Consistent reg) (hr : reg.contains r.method = true)
    (h : t.add r = .ok u) : u.Sound reg := by
  have hcoherent : u.Coherent := ht.toCoherent.add h
  obtain ⟨-, -, rfl⟩ := add_eq_ok_iff.1 h
  refine { toCoherent := hcoherent, registered := ?_, nonempty := by simp }
  intro q hq
  rcases List.mem_append.1 hq with hq | hq
  · exact ht.registered q hq
  · rw [List.mem_singleton.1 hq]
    exact hr

/-- Only the requests and the target matter. -/
theorem Sound.congr (h : t.Sound reg) (hrequests : u.requests = t.requests)
    (htarget : u.target = t.target) : u.Sound reg where
  registered := by rw [hrequests]; exact h.registered
  targets := by rw [hrequests, htarget]; exact h.targets
  sources := by rw [hrequests]; exact h.sources
  nonempty := by rw [hrequests]; exact h.nonempty

/-- A sound transaction has exactly one request to honor. -/
theorem Sound.exists_strongest (h : t.Sound reg) :
    ∃ r, reg.strongest t.requests = .ok (some r) ∧ reg.IsStrongest t.requests r := by
  obtain ⟨r, hr⟩ := Registry.exists_strongest h.registered h.nonempty
  exact ⟨r, hr, (Registry.isStrongest_of_strongest hr).2⟩

/-- The request to honor does not depend on the order of the requests. -/
theorem Sound.strongest_perm (h : t.Sound reg) {requests : List MethodRequest}
    (hperm : t.requests.Perm requests) : reg.strongest requests = reg.strongest t.requests :=
  Registry.strongest_perm h.registered
    (fun r hr q hq => (h.targets r hr).trans (h.targets q hq).symm) hperm

end Transaction

/-! ## Gathering -/

namespace Aggregator

variable [Regex.Dialect] {g : Aggregator} {ctx : ResolutionContext} {c : PatternCache}

/-- What a registry ranks first is registered. -/
theorem contains_of_ranked {reg : Registry} {x : Cached (List MethodRequest)} {r : MethodRequest}
    (h : answer (x >>= fun requests => liftM (reg.strongest requests)) c = .ok (some r)) :
    reg.contains r.method = true := by
  obtain ⟨requests, -, hr⟩ := answer_bind_eq_ok.1 h
  rw [answer_liftM] at hr
  exact Registry.contains_of_strongest hr

theorem contains_of_strongestOf {kind : ResolverKind} {r : MethodRequest}
    (h : answer (g.strongestOf ctx kind) c = .ok (some r)) :
    g.resolution.registry.contains r.method = true :=
  contains_of_ranked h

theorem contains_of_resolvePrincipal {r : MethodRequest}
    (h : answer (g.resolvePrincipal ctx) c = .ok (some r)) :
    g.resolution.registry.contains r.method = true :=
  contains_of_ranked h

/-- Every further resolver keeps the transaction sound. -/
theorem sound_of_gather {kinds : List ResolverKind} {t : Option Transaction} {u : Transaction}
    (ht : ∀ v, t = some v → v.Sound g.resolution.registry)
    (h : answer (g.gather ctx t kinds) c = .ok (some u)) : u.Sound g.resolution.registry := by
  induction kinds generalizing t c with
  | nil =>
      rw [gather, answer_pure] at h
      exact ht u (Except.ok.inj h)
  | cons kind rest ih =>
      rw [gather] at h
      obtain ⟨found, hfound, h⟩ := answer_bind_eq_ok.1 h
      cases found with
      | none => exact ih ht h
      | some r =>
          dsimp only at h
          split at h
          next v hadd =>
              refine ih (fun w hw => ?_) h
              cases hw
              refine Transaction.Consistent.add ?_ (contains_of_strongestOf hfound) hadd
              cases t with
              | none => exact Transaction.consistent_empty _
              | some w => exact (ht w rfl).toConsistent
          next e hadd => cases h

/-- The transaction of all resolvers of a service is sound. -/
theorem sound_of_aggregate {u : Transaction} (h : answer (g.aggregate ctx) c = .ok (some u)) :
    u.Sound g.resolution.registry := by
  obtain ⟨t, ht, h⟩ := answer_bind_eq_ok.1 h
  cases t with
  | none => cases h
  | some t =>
      have hsound := sound_of_gather (by simp) ht
      cases hauth : ctx.authentication with
      | none =>
          simp only [hauth, answer_pure, Except.ok.injEq, Option.some.injEq] at h
          exact h ▸ hsound
      | some a =>
          simp only [hauth, answer_pure, Except.ok.injEq, Option.some.injEq] at h
          exact h ▸ hsound.congr rfl rfl

/-- Gathering starts from a transaction for the service of the login, and records nobody. -/
theorem new_of_gather {kinds : List ResolverKind} {t : Option Transaction} {u : Transaction}
    (ht : ∀ v, t = some v → v.target = ctx.request.serviceId ∧ v.primary = none)
    (h : answer (g.gather ctx t kinds) c = .ok (some u)) :
    u.target = ctx.request.serviceId ∧ u.primary = none := by
  induction kinds generalizing t c with
  | nil =>
      rw [gather, answer_pure] at h
      exact ht u (Except.ok.inj h)
  | cons kind rest ih =>
      rw [gather] at h
      obtain ⟨found, -, h⟩ := answer_bind_eq_ok.1 h
      cases found with
      | none => exact ih ht h
      | some r =>
          dsimp only at h
          split at h
          next v hadd =>
              refine ih (fun w hw => ?_) h
              cases hw
              obtain ⟨-, -, rfl⟩ := Transaction.add_eq_ok_iff.1 hadd
              cases t with
              | none => exact ⟨rfl, rfl⟩
              | some w => exact ht w rfl
          next e hadd => cases h

/-- The transaction of a login is for its service, and records the authentication that the resolvers
were asked about. -/
theorem new_of_aggregate {u : Transaction} (h : answer (g.aggregate ctx) c = .ok (some u)) :
    u.target = ctx.request.serviceId ∧ u.primary = ctx.authentication := by
  obtain ⟨t, ht, h⟩ := answer_bind_eq_ok.1 h
  cases t with
  | none => cases h
  | some t =>
      obtain ⟨htarget, hprimary⟩ := new_of_gather (by simp) ht
      cases hauth : ctx.authentication with
      | none =>
          simp only [hauth, answer_pure, Except.ok.injEq, Option.some.injEq] at h
          exact h ▸ ⟨htarget, hprimary⟩
      | some a =>
          simp only [hauth, answer_pure, Except.ok.injEq, Option.some.injEq] at h
          exact h ▸ ⟨htarget, rfl⟩

end Aggregator

end StepUp
