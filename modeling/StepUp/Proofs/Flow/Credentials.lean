import StepUp.Proofs.Flow.Identity
import StepUp.Proofs.Flow.Target
import StepUp.Proofs.Login.StoredCredentials

/-!
# The credentials of an attempt

The credential of the primary login is stored under `primarySource`, the one of a method under the
name of the method.  Both kinds of sources share one name space.  So the credential of the primary
login is safe from the step of every method but one: a method may itself be called `primarySource`.
The main statement says that nothing else overwrites it, and that this does
(`Service.primary_credential_kept_iff`).
-/

namespace StepUp

open Cached

namespace Service

section

variable {s : Service} {x : Attempt} {q : LoginRequest} {r : MethodRequest}
  {a : Authentication} {credential : Option Credential}

/-! ## The step of a method and the primary credential -/

/-- The step of the selected method puts a credential in the place of the primary one: it bears the
name of the primary source and brings another credential, and the chain accepts it. -/
structure OverwritesPrimary (x : Attempt) (a : Authentication) (credential : Option Credential) :
    Prop where
  named : ∃ r, x.selected = some r ∧ r.method = primarySource
  accepted : x.chain.Of a.principal.id
  other : ∃ cred, credential = some cred ∧ x.chain.credential? primarySource ≠ some cred

/-- The step of a method changes what is stored under no source but the name of the method. -/
theorem credential?_completeMethod (hr : x.selected = some r)
    (hof : x.chain.Of a.principal.id) (key : String) :
    (s.completeMethod x a credential).2.chain.credential? key =
      credential.elim (x.chain.credential? key) fun cred =>
        if key = r.method then some cred else x.chain.credential? key := by
  have hfits : x.chain.Of (recorded a r.method).principal.id := hof
  obtain ⟨chain, happend⟩ := hfits.exists_append (credential.map (r.method, ·))
  rw [completeMethod_of_selected hr, happend]
  have hstored := Chain.credential?_of_append happend key
  cases credential with
  | none => exact hstored
  | some cred => exact hstored

/-- The step of a method chains an authentication to the chain, or leaves the attempt as it is. -/
theorem completeMethod_chains_or_keeps (s : Service) (x : Attempt) (a : Authentication)
    (credential : Option Credential) :
    (∃ r, x.selected = some r ∧ x.chain.Of a.principal.id ∧
      x.chain.append (recorded a r.method) (credential.map (r.method, ·)) =
        .ok (s.completeMethod x a credential).2.chain) ∨
    (s.completeMethod x a credential).2 = x := by
  cases hr : x.selected with
  | none =>
      right
      rw [completeMethod_of_not_selected hr]
  | some r =>
      rw [completeMethod_of_selected hr]
      split
      next => exact Or.inr rfl
      next chain happend =>
          have hof : x.chain.Of (recorded a r.method).principal.id := Chain.of_append happend
          exact Or.inl ⟨r, rfl, hof, happend⟩

/-- What is stored for the primary login changes where another credential is put in its place. -/
theorem credential?_primary_kept_iff (s : Service) (x : Attempt) (a : Authentication)
    (credential : Option Credential) :
    (s.completeMethod x a credential).2.chain.credential? primarySource =
        x.chain.credential? primarySource ↔ ¬ OverwritesPrimary x a credential := by
  constructor
  · rintro hkept ⟨⟨r, hr, hname⟩, hof, cred, rfl, hother⟩
    have hstored : (s.completeMethod x a (some cred)).2.chain.credential? primarySource =
        if primarySource = r.method then some cred else x.chain.credential? primarySource :=
      credential?_completeMethod hr hof primarySource
    rw [hkept, if_pos hname.symm] at hstored
    exact hother hstored
  · intro hsafe
    rcases s.completeMethod_chains_or_keeps x a credential with ⟨r, hr, hof, -⟩ | hsame
    · rw [credential?_completeMethod hr hof]
      cases credential with
      | none => rfl
      | some cred =>
          by_cases hname : primarySource = r.method
          · -- the method bears the name of the source, so it brings the same credential again
            by_cases hsame : x.chain.credential? primarySource = some cred
            · calc (if primarySource = r.method then some cred
                    else x.chain.credential? primarySource)
                  = some cred := if_pos hname
                _ = x.chain.credential? primarySource := hsame.symm
            · exact absurd ⟨⟨r, hr, hname.symm⟩, hof, cred, rfl, hsame⟩ hsafe
          · simp [hname]
    · rw [hsame]

variable [Regex.Dialect]

/-- A method that is not registered is not selected by a ranking that picks among the requests, so
none is called like the primary source where no registered one is. -/
theorem Reachable.not_overwritesPrimary (hx : s.Reachable q x) (hpicks : s.strategy.Picks)
    (hname : s.registry.contains primarySource = false) (a : Authentication)
    (credential : Option Credential) : ¬ OverwritesPrimary x a credential := by
  rintro ⟨⟨r, hr, hmethod⟩, -, -⟩
  obtain ⟨c, begun, hbegin, hleads⟩ := hx.exists_begun
  obtain ⟨-, -, hunselected, -⟩ := of_begin hbegin
  obtain ⟨t, ht, hmem⟩ := selected_mem_of_leads hpicks hleads hunselected hr
  have hregistered := (hleads.sound (settled_begin hbegin).sound ht).registered r hmem
  rw [hmethod, hname] at hregistered
  cases hregistered

/-- The step of a method keeps what is stored for the primary login, and so the credential that was
chained first if it is this one, unless the method is called like the source of the primary login
and brings another credential, which the chain accepts.  In a run this can only happen where a
method of this name is registered. -/
theorem primary_credential_kept_iff (s : Service) (x : Attempt) (a : Authentication)
    (credential : Option Credential) :
    ((s.completeMethod x a credential).2.chain.credential? primarySource =
        x.chain.credential? primarySource ↔ ¬ OverwritesPrimary x a credential) ∧
    (x.chain.sources.head? = some primarySource →
      ((s.completeMethod x a credential).2.chain.primaryCredential? = x.chain.primaryCredential? ↔
        ¬ OverwritesPrimary x a credential)) ∧
    ∀ q, s.Reachable q x → s.strategy.Picks → s.registry.contains primarySource = false →
      ¬ OverwritesPrimary x a credential := by
  have hstored := s.credential?_primary_kept_iff x a credential
  refine ⟨hstored, fun hfirst => ?_, fun q hx hpicks hname => ?_⟩
  · have hfirst' :
        (s.completeMethod x a credential).2.chain.sources.head? = some primarySource := by
      rcases s.completeMethod_chains_or_keeps x a credential with ⟨r, -, -, happend⟩ | hsame
      · exact Chain.head?_sources_of_append happend hfirst
      · rw [hsame]
        exact hfirst
    rw [Chain.primaryCredential?_of_head? hfirst, Chain.primaryCredential?_of_head? hfirst']
    exact hstored
  · exact hx.not_overwritesPrimary hpicks hname a credential

end

/-- The attempt after a primary login with a credential. -/
def afterPassword : Attempt :=
  small.after smallAttempt .empty
    (.completePrimary smallRequest (aliceWith (.str "otp")) (some ⟨"alice", none⟩))

/-- The step of the strongest method leaves the credential of the primary login where it is. -/
theorem primary_credential_kept_by_duo :
    small.Reachable smallRequest afterPassword ∧
      afterPassword.chain.sources.head? = some primarySource ∧
      small.registry.contains primarySource = false ∧
      (small.completeMethod afterPassword (aliceWith .null)
        (some ⟨"alice-duo", none⟩)).2.chain.sources = [primarySource, "duo"] ∧
      (small.completeMethod afterPassword (aliceWith .null)
        (some ⟨"alice-duo", none⟩)).2.chain.primaryCredential? = some ⟨"alice", none⟩ := by
  have hreachable : small.Reachable smallRequest afterPassword := .call _ _ reachable_smallAttempt
  obtain ⟨-, hfirst, hsafe⟩ := small.primary_credential_kept_iff afterPassword (aliceWith .null)
    (some ⟨"alice-duo", none⟩)
  have hnamed : small.registry.contains primarySource = false := by decide
  have hkept := (hfirst rfl).2 (hsafe smallRequest hreachable (Ranking.picks _) hnamed)
  exact ⟨hreachable, rfl, hnamed, rfl, hkept.trans rfl⟩

/-- The settings of a service whose one method is called like the source of the primary login. -/
def primaryNamedSettings : Settings where
  methods := [⟨"primary", 1⟩]

/-- The registry of this service. -/
def primaryNamedRegistry : Registry :=
  ⟨primaryNamedSettings.methods, by decide⟩

/-- The service of these settings. -/
def primaryNamed : Service where
  aggregator := {
    resolution := {
      registry := primaryNamedRegistry
      translator := .passthrough
      principalAttribute := primaryNamedSettings.principalAttribute
      defaultMethod := primaryNamedSettings.defaultMethod }
    kinds := primaryNamedSettings.resolvers }
  strategy := (Ranking.mk primaryNamedRegistry).strategy
  sessions := fun _ => none
  services := (Directory.ofList primaryNamedSettings.services).find?

theorem primaryNamed_built : primaryNamed.Built :=
  built_of_ofSettings (show answer (ofSettings primaryNamedSettings none fun _ => none) .empty =
    .ok primaryNamed from rfl)

/-- A login that names the method. -/
def primaryNamedRequest : LoginRequest :=
  { serviceId := "app", authnMethod := some "primary" }

/-- The credential of a method that is called like the source of the primary login replaces that of
the primary login. -/
theorem method_named_primary_overwrites :
    primaryNamed.Built ∧
      ∃ x y, primaryNamed.Reachable primaryNamedRequest x ∧
        x.chain.sources = [primarySource] ∧
        x.chain.primaryCredential? = some ⟨"alice", none⟩ ∧
        primaryNamed.completeMethod x (aliceWith .null) (some ⟨"alice-otp", none⟩) =
          (.ok .completed, y) ∧
        y.chain.credential? primarySource = some ⟨"alice-otp", none⟩ ∧
        y.chain.primaryCredential? = some ⟨"alice-otp", none⟩ := by
  have hbegin : answer (primaryNamed.begin primaryNamedRequest) .empty =
      .ok (.start (some (.ofRequest ⟨"primary", "app", .requestParam⟩)) none) := rfl
  have hreachable := Reachable.call
    (.completePrimary primaryNamedRequest (aliceWith .null) (some ⟨"alice", none⟩)) .empty
    (.begin hbegin)
  exact ⟨primaryNamed_built, _, _, hreachable, rfl, rfl, rfl, rfl, rfl⟩

end Service

end StepUp
