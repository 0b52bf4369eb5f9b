import Mathlib.Data.List.Nodup
import StepUp.Proofs.Composite.Append

/-!
# What a chain stores

A chain stores the credentials that come with its authentications, each under a source.  A
credential that comes for a source which is there already takes the place of the old one, so sources
are only ever added, at the end and none twice (`Chain.sources_eq_of_append`), and what is stored
under other sources stays (`Chain.credential?_of_append`).
-/

namespace StepUp.Chain

variable {c d : Chain} {a : Authentication} {credential : Option (String × Credential)}

/-- The sources of the stored credentials, in the order in which they came. -/
def sources (c : Chain) : List String :=
  c.credentials.map (·.1)

theorem find?_putCredential (source : String) (cred : Credential)
    (entries : List (String × Credential)) (key : String) :
    ((putCredential source cred entries).find? fun e => e.1 == key).map (·.2) =
      if key = source then some cred else (entries.find? fun e => e.1 == key).map (·.2) := by
  induction entries with
  | nil =>
      by_cases hkey : key = source
      · simp [putCredential, hkey]
      · simp [putCredential, hkey, Ne.symm hkey]
  | cons e rest ih =>
      obtain ⟨s, old⟩ := e
      by_cases hsource : s = source
      · -- the entry of the source is replaced where it stands
        subst hsource
        by_cases hkey : key = s
        · simp [putCredential, hkey]
        · simp [putCredential, hkey, Ne.symm hkey]
      · by_cases hkey : s = key
        · subst hkey
          simp [putCredential, hsource]
        · have hskip : ((s == key) = false) := by simpa using hkey
          simpa [putCredential, hsource, List.find?_cons, hskip] using ih

/-- A source that is not there comes last, and one that is there stays in its place. -/
theorem map_putCredential (source : String) (cred : Credential)
    (entries : List (String × Credential)) :
    (putCredential source cred entries).map (·.1) =
      if source ∈ entries.map (·.1) then entries.map (·.1) else entries.map (·.1) ++ [source] := by
  induction entries with
  | nil => rfl
  | cons e rest ih =>
      obtain ⟨s, old⟩ := e
      by_cases hsource : s = source
      · simp [putCredential, hsource]
      · by_cases hrest : source ∈ rest.map (·.1)
        · simp [putCredential, hsource, Ne.symm hsource, ih, hrest]
        · simp [putCredential, hsource, Ne.symm hsource, ih, hrest]

theorem credentials_of_append (h : c.append a credential = .ok d) :
    d.credentials =
      credential.elim c.credentials fun e => putCredential e.1 e.2 c.credentials := by
  unfold append at h
  split at h
  next => cases h
  next =>
      cases h
      cases credential <;> rfl

/-- A credential brings its source, unless the source is there. -/
theorem sources_eq_of_append (h : c.append a credential = .ok d) :
    d.sources = credential.elim c.sources fun e =>
      if e.1 ∈ c.sources then c.sources else c.sources ++ [e.1] := by
  unfold sources
  rw [credentials_of_append h]
  cases credential with
  | none => rfl
  | some e => exact map_putCredential e.1 e.2 c.credentials

/-- Sources are added at the end. -/
theorem sources_of_append (h : c.append a credential = .ok d) : c.sources <+: d.sources := by
  rw [sources_eq_of_append h]
  cases credential with
  | none => exact List.prefix_rfl
  | some e =>
      dsimp only [Option.elim]
      split
      · exact List.prefix_rfl
      · exact List.prefix_append _ _

theorem nodup_sources_of_append (h : c.append a credential = .ok d) (hdistinct : c.sources.Nodup) :
    d.sources.Nodup := by
  rw [sources_eq_of_append h]
  cases credential with
  | none => exact hdistinct
  | some e =>
      dsimp only [Option.elim]
      split
      next => exact hdistinct
      next hnew =>
          rw [← List.concat_eq_append]
          exact hdistinct.concat hnew

/-- A credential is stored under its source, and those under other sources stay. -/
theorem credential?_of_append (h : c.append a credential = .ok d) (key : String) :
    d.credential? key =
      credential.elim (c.credential? key) fun e =>
        if key = e.1 then some e.2 else c.credential? key := by
  unfold credential?
  rw [credentials_of_append h]
  cases credential with
  | none => rfl
  | some e => exact find?_putCredential e.1 e.2 c.credentials key

/-- The credential that was chained first is the one under the first source. -/
theorem primaryCredential?_of_head? {source : String} (h : c.sources.head? = some source) :
    c.primaryCredential? = c.credential? source := by
  unfold sources at h
  unfold primaryCredential? credential?
  cases hentries : c.credentials with
  | nil => simp [hentries] at h
  | cons e rest =>
      rw [hentries] at h
      have hfirst : e.1 = source := Option.some.inj h
      simp [hfirst]

theorem head?_sources_of_append (h : c.append a credential = .ok d) {source : String}
    (hfirst : c.sources.head? = some source) : d.sources.head? = some source := by
  obtain ⟨more, hmore⟩ := sources_of_append h
  rw [← hmore, List.head?_append, hfirst]
  rfl

end StepUp.Chain
