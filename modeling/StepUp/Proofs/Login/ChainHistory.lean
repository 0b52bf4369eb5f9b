import Mathlib.Data.List.Induction
import StepUp.Proofs.Login.StoredCredentials

/-!
# The history of a chain

A chain is made by calls that append to it in place, each of which may be refused.  This file says
what a chain is in terms of the calls that it has accepted (`Chain.history_of_calls`).

* A call first looks at the principal and then makes its two writes, so a refused one has written
  nothing (`Chain.offer_eq`).
* What one accepted call makes of the chain is known from `Chain.append`.  `Chain.History.Recorded`
  says what the accepted calls together have made of it: every call keeps this, and so does every
  sequence of calls (`Chain.History.recorded_ofCalls`).
* All that was accepted is of the principal of the first call, which therefore decides whether a
  call is accepted (`Chain.History.Recorded.offer_eq_error_iff`).
-/

namespace StepUp.Chain

/-! ## Calls -/

/-- A call that appends to a chain: an authentication, with its credential under a source if there
is one. -/
structure Addition where
  authentication : Authentication
  credential : Option (String × Credential) := none

namespace Addition

/-- The principal that the call is about. -/
def id (k : Addition) : String :=
  k.authentication.principal.id

/-- The writes of a call: one for the credential, if there is one, and one for the
authentication. -/
def write (k : Addition) : StateM Chain Unit := do
  if let some (source, cred) := k.credential then
    modify fun c => { c with credentials := putCredential source cred c.credentials }
  modify fun c => { c with authentications := c.authentications ++ [k.authentication] }

/-- The call as it changes a chain in place: the principal is checked before anything is written. -/
def perform (k : Addition) : ExceptT FlowError (StateM Chain) Unit := do
  match (← get).mismatch? k.authentication.principal with
  | some e => throw e
  | none => k.write

end Addition

/-- What a chain answers to a call, and what the call leaves of it. -/
def offer (c : Chain) (k : Addition) : Except FlowError Unit × Chain :=
  k.perform c

/-- A call leaves the chain with its authentication appended, or as it was. -/
theorem offer_eq (c : Chain) (k : Addition) :
    c.offer k = match c.append k.authentication k.credential with
      | .ok d => (.ok (), d)
      | .error e => (.error e, c) := by
  have hfound : c.offer k = (match c.mismatch? k.authentication.principal with
      | some e => throw e
      | none => k.write : ExceptT FlowError (StateM Chain) Unit) c :=
    rfl
  rw [hfound]
  unfold append
  cases c.mismatch? k.authentication.principal with
  | some e => rfl
  | none =>
      obtain ⟨a, credential⟩ := k
      cases credential <;> rfl

/-! ## What calls bring -/

namespace Addition

/-- The credentials that calls brought, each with its source, in the order of the calls. -/
def brought (l : List Addition) : List (String × Credential) :=
  l.filterMap (·.credential)

/-- The credential that the last call brought which named a source. -/
def lastUnder (source : String) (l : List Addition) : Option Credential :=
  ((brought l).reverse.find? fun e => e.1 == source).map (·.2)

theorem brought_concat (l : List Addition) (k : Addition) :
    brought (l ++ [k]) = brought l ++ k.credential.toList := by
  unfold brought
  cases hk : k.credential <;> simp [hk]

theorem lastUnder_concat (source : String) (l : List Addition) (k : Addition) :
    lastUnder source (l ++ [k]) = k.credential.elim (lastUnder source l) fun e =>
      if source = e.1 then some e.2 else lastUnder source l := by
  unfold lastUnder
  rw [brought_concat]
  cases k.credential with
  | none => simp
  | some e =>
      by_cases hsource : source = e.1
      · simp [hsource]
      · have hskip : (e.1 == source) = false := by simpa using Ne.symm hsource
        simp [hskip, hsource]

end Addition

/-! ## Histories -/

/-- A chain with the calls that it has accepted, in their order. -/
structure History where
  accepted : List Addition := []
  chain : Chain := .empty

namespace History

/-- The history with a call more, which the chain accepts or refuses. -/
def call (h : History) (k : Addition) : History :=
  match h.chain.offer k with
  | (.ok _, chain) => { accepted := h.accepted ++ [k], chain }
  | (.error _, chain) => { h with chain }

/-- The history of a new chain after some calls. -/
def ofCalls (calls : List Addition) : History :=
  calls.foldl call {}

/-- What a chain has made of the calls that it accepted. -/
structure Recorded (h : History) : Prop where
  authentications : h.chain.authentications = h.accepted.map (·.authentication)
  uniform : ∀ first, h.accepted.head? = some first → h.chain.Of first.id
  stored : ∀ source, h.chain.credential? source = Addition.lastUnder source h.accepted
  distinct : h.chain.sources.Nodup
  firstSource : h.chain.sources.head? = (Addition.brought h.accepted).head?.map (·.1)

variable {h : History} {k first : Addition} {d : Chain}

theorem call_of_append (happend : h.chain.append k.authentication k.credential = .ok d) :
    h.call k = { accepted := h.accepted ++ [k], chain := d } := by
  unfold call
  rw [offer_eq, happend]

theorem call_of_refused {e : FlowError}
    (hrefused : h.chain.append k.authentication k.credential = .error e) : h.call k = h := by
  unfold call
  rw [offer_eq, hrefused]

theorem recorded_empty : Recorded {} where
  authentications := rfl
  uniform := by simp
  stored := fun _ => rfl
  distinct := List.nodup_nil
  firstSource := rfl

/-- Nothing is stored exactly as long as no credential was brought. -/
theorem Recorded.sources_eq_nil_iff (hrec : h.Recorded) :
    h.chain.sources = [] ↔ Addition.brought h.accepted = [] := by
  rw [← List.head?_eq_none_iff, hrec.firstSource, Option.map_eq_none_iff, List.head?_eq_none_iff]

theorem Recorded.isEmpty_iff (hrec : h.Recorded) :
    h.chain.isEmpty = true ↔ h.accepted = [] := by
  simp [isEmpty, hrec.authentications]

theorem Recorded.begun (hrec : h.Recorded) (hfirst : h.accepted.head? = some first) :
    h.chain.isEmpty = false := by
  rw [← Bool.not_eq_true, hrec.isEmpty_iff]
  intro hnil
  simp [hnil] at hfirst

/-- A call that is accepted is recorded with the others. -/
theorem Recorded.accept (hrec : h.Recorded)
    (happend : h.chain.append k.authentication k.credential = .ok d) :
    Recorded { accepted := h.accepted ++ [k], chain := d } where
  authentications := by
    simp [authentications_of_append happend, hrec.authentications]
  uniform := by
    intro first hfirst
    cases haccepted : h.accepted with
    | nil =>
        simp only [haccepted, List.nil_append, List.head?_cons, Option.some.injEq] at hfirst
        exact hfirst ▸ append_of happend
    | cons j rest =>
        simp only [haccepted, List.cons_append, List.head?_cons, Option.some.injEq] at hfirst
        have hhead : h.accepted.head? = some first := by simp [haccepted, hfirst]
        exact (hrec.uniform first hhead).append (hrec.begun hhead) happend
  stored := by
    intro source
    dsimp only
    rw [credential?_of_append happend, Addition.lastUnder_concat, hrec.stored]
  distinct := nodup_sources_of_append happend hrec.distinct
  firstSource := by
    dsimp only
    rw [Addition.brought_concat, List.head?_append]
    cases hbrought : (Addition.brought h.accepted).head? with
    | some e =>
        -- the source that was first stays so
        have hfirst : h.chain.sources.head? = some e.1 := by simp [hrec.firstSource, hbrought]
        exact head?_sources_of_append happend hfirst
    | none =>
        have hnil : h.chain.sources = [] :=
          hrec.sources_eq_nil_iff.2 (List.head?_eq_none_iff.1 hbrought)
        rw [sources_eq_of_append happend, hnil]
        cases k.credential <;> rfl

/-- What a chain stores first is what it now stores under the source that was named first. -/
theorem Recorded.primaryCredential?_eq (hrec : h.Recorded) : h.chain.primaryCredential? =
    (Addition.brought h.accepted).head?.bind fun e => h.chain.credential? e.1 := by
  cases hbrought : (Addition.brought h.accepted).head? with
  | some e =>
      have hfirst : h.chain.sources.head? = some e.1 := by simp [hrec.firstSource, hbrought]
      exact primaryCredential?_of_head? hfirst
  | none =>
      have hnil : h.chain.sources = [] :=
        hrec.sources_eq_nil_iff.2 (List.head?_eq_none_iff.1 hbrought)
      have hempty : h.chain.credentials = [] := List.map_eq_nil_iff.1 hnil
      simp [primaryCredential?, hempty]

/-- Every call keeps what is recorded. -/
theorem Recorded.call (hrec : h.Recorded) (k : Addition) : (h.call k).Recorded := by
  cases happend : h.chain.append k.authentication k.credential with
  | ok d =>
      rw [call_of_append happend]
      exact hrec.accept happend
  | error e =>
      rw [call_of_refused happend]
      exact hrec

theorem ofCalls_concat (calls : List Addition) (k : Addition) :
    ofCalls (calls ++ [k]) = (ofCalls calls).call k := by
  simp [ofCalls]

theorem recorded_ofCalls (calls : List Addition) : (ofCalls calls).Recorded := by
  induction calls using List.reverseRecOn with
  | nil => exact recorded_empty
  | append_singleton calls k ih =>
      rw [ofCalls_concat]
      exact ih.call k

/-! ## What is accepted -/

/-- A chain refuses every principal but that of the first call that it accepted. -/
theorem Recorded.append_eq_error_iff (hrec : h.Recorded) {e : FlowError} :
    h.chain.append k.authentication k.credential = .error e ↔
      ∃ first, h.accepted.head? = some first ∧ k.id ≠ first.id ∧
        e = .identityMismatch first.id k.id := by
  cases haccepted : h.accepted with
  | nil =>
      have hof : h.chain.Of k.id := of_isEmpty (hrec.isEmpty_iff.2 haccepted) _
      obtain ⟨d, hd⟩ := Of.exists_append hof k.credential
      simp [hd]
  | cons first rest =>
      have hhead : h.accepted.head? = some first := by simp [haccepted]
      rw [(hrec.uniform first hhead).append_eq_error_iff]
      simp [hrec.begun hhead, Addition.id, ne_comm]

/-- A refused call leaves the chain as it is. -/
theorem Recorded.offer_eq_error_iff (hrec : h.Recorded) {e : FlowError} :
    h.chain.offer k = (.error e, d) ↔ d = h.chain ∧
      ∃ first, h.accepted.head? = some first ∧ k.id ≠ first.id ∧
        e = .identityMismatch first.id k.id := by
  rw [← hrec.append_eq_error_iff, offer_eq]
  cases h.chain.append k.authentication k.credential with
  | ok d' => simp
  | error e' => simp [and_comm, eq_comm (a := d)]

theorem Recorded.offer_eq_ok_iff (hrec : h.Recorded) :
    (h.chain.offer k).1 = .ok () ↔
      h.chain.isEmpty = true ∨ ∃ first, h.accepted.head? = some first ∧ k.id = first.id := by
  have hfails : (∃ e, h.chain.append k.authentication k.credential = .error e) ↔
      ∃ first, h.accepted.head? = some first ∧ k.id ≠ first.id := by
    simp only [hrec.append_eq_error_iff]
    exact ⟨fun ⟨_, first, hfirst, hid, _⟩ => ⟨first, hfirst, hid⟩,
      fun ⟨first, hfirst, hid⟩ => ⟨_, first, hfirst, hid, rfl⟩⟩
  have haccepts : (h.chain.offer k).1 = .ok () ↔
      ¬ ∃ e, h.chain.append k.authentication k.credential = .error e := by
    rw [offer_eq]
    cases h.chain.append k.authentication k.credential <;> simp
  rw [haccepts, hfails, hrec.isEmpty_iff]
  cases h.accepted <;> simp

theorem Recorded.accepted_call (hrec : h.Recorded) (k : Addition) : (h.call k).accepted =
    h.accepted ++ [k].filter fun k => h.accepted.head?.all fun first => k.id == first.id := by
  cases happend : h.chain.append k.authentication k.credential with
  | error e =>
      obtain ⟨first, hfirst, hid, -⟩ := hrec.append_eq_error_iff.1 happend
      simp [call_of_refused happend, hfirst, hid]
  | ok d =>
      have hid : ∀ first, h.accepted.head? = some first → k.id = first.id := by
        intro first hfirst
        by_contra hid
        rw [hrec.append_eq_error_iff.2 ⟨first, hfirst, hid, rfl⟩] at happend
        cases happend
      cases hhead : h.accepted.head? with
      | none => simp [call_of_append happend]
      | some first => simp [call_of_append happend, hid first hhead]

/-- Of all calls those are accepted that are of the principal of the first. -/
theorem accepted_ofCalls (calls : List Addition) : (ofCalls calls).accepted =
    calls.filter fun k => calls.head?.all fun first => k.id == first.id := by
  induction calls using List.reverseRecOn with
  | nil => rfl
  | append_singleton calls k ih =>
      rw [ofCalls_concat, (recorded_ofCalls calls).accepted_call, ih]
      cases calls with
      | nil => simp
      | cons first rest => simp

end History

/-- After any calls on a new chain: one more call is accepted exactly if the chain is empty or the
call is of the principal of the first accepted one, and a refused one names both principals and
changes nothing; the accepted calls, in their order, are those of the first principal; the chain has
their authentications, stores for each source the credential of the last that named it, no source
twice, and as the primary one what is now stored under the source that was named first. -/
theorem history_of_calls (calls : List Addition) :
    let h := History.ofCalls calls
    (∀ k, (h.chain.offer k).1 = .ok () ↔
      h.chain.isEmpty = true ∨ ∃ first, h.accepted.head? = some first ∧ k.id = first.id) ∧
    (∀ k e d, h.chain.offer k = (.error e, d) ↔ d = h.chain ∧
      ∃ first, h.accepted.head? = some first ∧ k.id ≠ first.id ∧
        e = .identityMismatch first.id k.id) ∧
    h.accepted = (calls.filter fun k => calls.head?.all fun first => k.id == first.id) ∧
    h.chain.authentications = h.accepted.map (·.authentication) ∧
    (∀ source, h.chain.credential? source = Addition.lastUnder source h.accepted) ∧
    h.chain.sources.Nodup ∧
    h.chain.primaryCredential? =
      (Addition.brought h.accepted).head?.bind fun e => h.chain.credential? e.1 := by
  intro h
  have hrec : h.Recorded := History.recorded_ofCalls calls
  exact ⟨fun k => hrec.offer_eq_ok_iff, fun k e d => hrec.offer_eq_error_iff,
    History.accepted_ofCalls calls, hrec.authentications, hrec.stored, hrec.distinct,
    hrec.primaryCredential?_eq⟩

/-- A login without a credential, two with one, one of another principal, and one that replaces the
first credential: the replacement is the primary credential, though another one came before it. -/
example :
    let alice : Authentication := { principal := ⟨"alice", .empty⟩ }
    let h := History.ofCalls [⟨alice, none⟩, ⟨alice, some ("password", ⟨"alice", none⟩)⟩,
      ⟨alice, some ("duo", ⟨"alice-duo", none⟩)⟩,
      ⟨{ principal := ⟨"bob", .empty⟩ }, some ("password", ⟨"bob", none⟩)⟩,
      ⟨alice, some ("password", ⟨"alice-2", none⟩)⟩]
    h.accepted.length = 4 ∧ h.chain.sources = ["password", "duo"] ∧
      h.chain.primaryCredential? = some ⟨"alice-2", none⟩ :=
  ⟨rfl, rfl, rfl⟩

end StepUp.Chain
