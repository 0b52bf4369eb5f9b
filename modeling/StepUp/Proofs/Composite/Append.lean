import StepUp.Login.Composite

/-!
# Appending to a chain

A chain grows at its end, by one authentication at a time, and refuses one of another principal than
the one it has.  So the authentications of a chain are of one principal (`Chain.Of`), and those that
are can be appended in a row (`Chain.Of.appendAll`).
-/

namespace StepUp.Chain

variable {c d : Chain} {a : Authentication} {credential : Option (String × Credential)}

/-! ## What is appended -/

theorem authentications_of_append (h : c.append a credential = .ok d) :
    d.authentications = c.authentications ++ [a] := by
  unfold append at h
  split at h
  · cases h
  · cases h
    rfl

theorem isEmpty_of_append (h : c.append a credential = .ok d) : d.isEmpty = false := by
  simp [isEmpty, authentications_of_append h]

/-- Nothing that is chained first is refused. -/
theorem append_of_isEmpty (h : c.isEmpty = true) (a : Authentication) :
    c.append a none = .ok { c with authentications := [a] } := by
  have hnil : c.authentications = [] := by simpa [isEmpty] using h
  simp [append, mismatch?, hnil]

theorem exists_compose (h : c.isEmpty = false) (now : Time.Timestamp) :
    ∃ composite, c.compose now = .ok composite := by
  unfold compose
  split
  next hnil => simp [isEmpty, hnil] at h
  next first rest _ => exact ⟨_, rfl⟩

/-! ## Chains of one principal -/

/-- All that was chained is of a principal. -/
def Of (c : Chain) (id : String) : Prop :=
  ∀ a ∈ c.authentications, a.principal.id = id

theorem of_isEmpty (h : c.isEmpty = true) (id : String) : c.Of id := by
  have hnil : c.authentications = [] := by simpa [isEmpty] using h
  intro a ha
  rw [hnil] at ha
  cases ha

theorem exists_mem_of_not_isEmpty (h : c.isEmpty = false) : ∃ a, a ∈ c.authentications := by
  rw [isEmpty, List.isEmpty_eq_false_iff_exists_mem] at h
  exact h

/-- Two principals of one chain are the same, unless nothing was chained. -/
theorem Of.unique {id id' : String} (h : c.Of id) (h' : c.Of id') (hne : c.isEmpty = false) :
    id = id' := by
  obtain ⟨a, ha⟩ := exists_mem_of_not_isEmpty hne
  exact (h a ha).symm.trans (h' a ha)

theorem Of.shorter {id : String} (h : d.Of id) (hbegins : c.authentications <+: d.authentications) :
    c.Of id :=
  fun a ha => h a (hbegins.subset ha)

theorem of_mismatch?_eq_none {p : Principal} (h : c.mismatch? p = none) : c.Of p.id := by
  intro a ha
  rw [mismatch?, Option.map_eq_none_iff] at h
  simpa [Principal.sameIdentity] using List.find?_eq_none.1 h a ha

/-- What is appended is of the principal of the chain. -/
theorem of_append (h : c.append a credential = .ok d) : c.Of a.principal.id := by
  unfold append at h
  split at h
  next => cases h
  next hnone => exact of_mismatch?_eq_none hnone

theorem append_of (h : c.append a credential = .ok d) : d.Of a.principal.id := by
  intro b hb
  rw [authentications_of_append h] at hb
  rcases List.mem_append.1 hb with hold | hnew
  · exact of_append h b hold
  · rw [List.mem_singleton.1 hnew]

theorem mismatch?_eq_none_of {p : Principal} (h : c.Of p.id) : c.mismatch? p = none := by
  rw [mismatch?, Option.map_eq_none_iff, List.find?_eq_none]
  intro b hb
  simp [Principal.sameIdentity, h b hb]

/-- Nothing of the principal of the chain is refused. -/
theorem Of.exists_append (h : c.Of a.principal.id) (credential : Option (String × Credential)) :
    ∃ d, c.append a credential = .ok d := by
  unfold append
  rw [mismatch?_eq_none_of h]
  exact ⟨_, rfl⟩

/-- A chain that is begun names its principal when it refuses another one. -/
theorem Of.mismatch?_eq_some {id : String} {p : Principal} (hof : c.Of id)
    (hne : c.isEmpty = false) (hid : id ≠ p.id) :
    c.mismatch? p = some (.identityMismatch id p.id) := by
  unfold mismatch?
  cases hl : c.authentications with
  | nil => simp [isEmpty, hl] at hne
  | cons b rest =>
      have hb : b.principal.id = id := hof b (by simp [hl])
      -- all are of one principal, so the first that does not fit is the first of all
      have hfirst : (!b.principal.sameIdentity p) = true := by
        simp [Principal.sameIdentity, hb, hid]
      simp [hfirst, hb]

/-- A chain of one principal refuses every other one, and nothing else. -/
theorem Of.append_eq_error_iff {id : String} (hof : c.Of id) {f : FlowError} :
    c.append a credential = .error f ↔
      c.isEmpty = false ∧ id ≠ a.principal.id ∧ f = .identityMismatch id a.principal.id := by
  by_cases hfits : c.Of a.principal.id
  · obtain ⟨d, hd⟩ := hfits.exists_append credential
    refine iff_of_false (by simp [hd]) ?_
    rintro ⟨hne, hid, -⟩
    exact hid (hof.unique hfits hne)
  · have hne : c.isEmpty = false := by
      cases hempty : c.isEmpty with
      | false => rfl
      | true => exact absurd (of_isEmpty hempty _) hfits
    have hid : id ≠ a.principal.id := by
      rintro rfl
      exact hfits hof
    unfold append
    rw [hof.mismatch?_eq_some hne hid]
    simp [hne, hid, eq_comm]

/-- The composite is of the principal of the chain. -/
theorem Of.compose {id : String} {now : Time.Timestamp} {composite : Composite} (h : c.Of id)
    (hcompose : c.compose now = .ok composite) : composite.principal.id = id := by
  unfold Chain.compose at hcompose
  split at hcompose
  next => cases hcompose
  next first rest hfirst =>
      cases hcompose
      exact h first (by rw [hfirst]; exact List.mem_cons_self)

/-- A chain that is begun keeps its principal when it grows. -/
theorem Of.append {id : String} (hof : c.Of id) (hne : c.isEmpty = false)
    (h : c.append a credential = .ok d) : d.Of id :=
  hof.unique (of_append h) hne ▸ append_of h

/-! ## Appending in a row -/

/-- The chain with authentications more, one after the other. -/
def appendAll (c : Chain) (l : List Authentication) : Except FlowError Chain :=
  l.foldlM (fun c a => c.append a none) c

/-- Authentications of the principal of the chain are appended, all of them. -/
theorem Of.appendAll {id : String} (hof : c.Of id) {l : List Authentication}
    (hl : ∀ a ∈ l, a.principal.id = id) :
    c.appendAll l = .ok { c with authentications := c.authentications ++ l } := by
  unfold Chain.appendAll
  induction l generalizing c with
  | nil => simp [pure, Except.pure]
  | cons a rest ih =>
      obtain ⟨rfl, hrest⟩ := List.forall_mem_cons.1 hl
      have happend : c.append a none =
          .ok { c with authentications := c.authentications ++ [a] } := by
        rw [Chain.append, mismatch?_eq_none_of hof]
      rw [List.foldlM_cons, happend]
      refine (ih (append_of happend) hrest).trans ?_
      rw [List.append_assoc, List.singleton_append]

end StepUp.Chain
