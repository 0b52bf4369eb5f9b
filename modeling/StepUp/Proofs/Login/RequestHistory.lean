import Mathlib.Data.List.Induction
import StepUp.Proofs.Resolution.Gathering

/-!
# The history of a transaction

A transaction is changed in place by calls that add one request or several.  This file says what it
is in terms of the requests that it has accepted (`Transaction.history_of_requests`).

* One request passes two checks before it is written, so a refused one has written nothing
  (`Transaction.offer_one`).  The target is checked first.
* Several requests are added one by one until one is refused, and those before it stay
  (`Transaction.offer_batch`).
  `Transaction.taken` follows the requests until then, and `Transaction.offer_batch_spec` says that
  these are the longest beginning of the list in which each is accepted at its turn.
* Whatever is accepted fits to what is there (`Transaction.Accepts.coherent`), so it fits together
  after any sequence of calls (`Transaction.History.recorded_ofCalls`).
-/

namespace StepUp.Transaction

/-! ## Calls -/

/-- One request as it is added in place: it is written after both checks. -/
def adding (r : MethodRequest) : ExceptT FlowError (StateM Transaction) Unit := do
  let t ← get
  if r.target ≠ t.target then throw (.targetServiceMismatch t.target r.target)
  else if t.containsSource r.source then throw (.duplicateSource r.source)
  else set { t with requests := t.requests ++ [r] }

/-- A call that adds one request, or several of them. -/
inductive Call where
  | one (r : MethodRequest)
  | batch (l : List MethodRequest)

/-- The requests that a call brings. -/
def Call.requests : Call → List MethodRequest
  | one r => [r]
  | batch l => l

/-- What a transaction answers to a call, and what the call leaves of it. -/
def offer (t : Transaction) : Call → Except FlowError Unit × Transaction
  | .one r => adding r t
  | .batch l => l.forM adding t

variable {t u v : Transaction} {r : MethodRequest} {l p : List MethodRequest}

/-- One request is added, or leaves the transaction as it was. -/
theorem offer_one (t : Transaction) (r : MethodRequest) :
    t.offer (.one r) = match t.add r with
      | .ok u => (.ok (), u)
      | .error e => (.error e, t) := by
  have hfound : t.offer (.one r) =
      (if r.target ≠ t.target then throw (.targetServiceMismatch t.target r.target)
      else if t.containsSource r.source then throw (.duplicateSource r.source)
      else set { t with requests := t.requests ++ [r] } :
        ExceptT FlowError (StateM Transaction) Unit) t :=
    rfl
  rw [hfound]
  unfold add
  by_cases htarget : r.target = t.target
  · simp only [ne_eq, htarget, not_true_eq_false, if_false]
    cases t.containsSource r.source <;> rfl
  · simp only [ne_eq, htarget, not_false_eq_true, if_true]
    rfl

theorem offer_one_eq_ok_iff : t.offer (.one r) = (.ok (), u) ↔ t.add r = .ok u := by
  rw [offer_one]
  cases t.add r <;> simp

/-- A request is refused for its target, and one of this target for its source. -/
theorem offer_one_eq_error_iff {e : FlowError} : t.offer (.one r) = (.error e, u) ↔ u = t ∧
    (r.target ≠ t.target ∧ e = .targetServiceMismatch t.target r.target ∨
      r.target = t.target ∧ (∃ q ∈ t.requests, q.source = r.source) ∧
        e = .duplicateSource r.source) := by
  have hadd : t.offer (.one r) = (.error e, u) ↔ u = t ∧ t.add r = .error e := by
    rw [offer_one]
    cases t.add r with
    | ok v => simp
    | error e' => simp [and_comm, eq_comm (a := u)]
  have hsource : t.containsSource r.source = true ↔ ∃ q ∈ t.requests, q.source = r.source := by
    simp [containsSource]
  rw [hadd, add_eq_error_iff, hsource]
  simp [eq_comm (a := t.target)]

/-- Several requests are added up to the first that is refused. -/
theorem offer_batch (t : Transaction) (l : List MethodRequest) :
    t.offer (.batch l) = match t.addAll l with
      | (none, u) => (.ok (), u)
      | (some e, u) => (.error e, u) := by
  induction l generalizing t with
  | nil => rfl
  | cons r l ih =>
      have hfirst : t.offer (.batch (r :: l)) =
          ExceptT.bindCont (fun _ => l.forM adding) (t.offer (.one r)).1 (t.offer (.one r)).2 :=
        rfl
      rw [hfirst, offer_one, addAll]
      cases t.add r with
      | error e => rfl
      | ok u => exact ih u

theorem offer_batch_nil (t : Transaction) : t.offer (.batch []) = (.ok (), t) :=
  rfl

theorem offer_batch_cons (t : Transaction) (r : MethodRequest) (l : List MethodRequest) :
    t.offer (.batch (r :: l)) = match t.offer (.one r) with
      | (.ok _, u) => u.offer (.batch l)
      | (.error e, u) => (.error e, u) := by
  rw [offer_batch, offer_one, addAll]
  cases t.add r with
  | error e => rfl
  | ok u => exact (offer_batch u l).symm

/-! ## Requests that are accepted -/

/-- A transaction accepts the requests of a list, each when its turn comes, and becomes another. -/
inductive Accepts : Transaction → List MethodRequest → Transaction → Prop
  | nil (t : Transaction) : Accepts t [] t
  | cons {t u v : Transaction} {r : MethodRequest} {l : List MethodRequest} :
      t.offer (.one r) = (.ok (), u) → Accepts u l v → Accepts t (r :: l) v

/-- The requests of a list that a transaction accepts before it refuses one. -/
def taken (t : Transaction) : List MethodRequest → List MethodRequest
  | [] => []
  | r :: rest =>
    match t.offer (.one r) with
    | (.ok _, u) => r :: u.taken rest
    | (.error _, _) => []

theorem taken_of_ok (h : t.offer (.one r) = (.ok (), u)) : t.taken (r :: l) = r :: u.taken l := by
  rw [taken, h]

theorem taken_of_error {e : FlowError} (h : t.offer (.one r) = (.error e, u)) :
    t.taken (r :: l) = [] := by
  rw [taken, h]

/-- What is accepted comes after what is there, and nothing else changes. -/
theorem Accepts.eq (h : t.Accepts l u) : u = { t with requests := t.requests ++ l } := by
  induction h with
  | nil t => simp
  | cons hfirst _ ih =>
      obtain ⟨-, -, rfl⟩ := add_eq_ok_iff.1 (offer_one_eq_ok_iff.1 hfirst)
      simp [ih]

/-- What is accepted fits to what is there. -/
theorem Accepts.coherent (h : t.Accepts l u) (ht : t.Coherent) : u.Coherent := by
  induction h with
  | nil t => exact ht
  | cons hfirst _ ih => exact ih (ht.add (offer_one_eq_ok_iff.1 hfirst))

/-- A beginning of a list in which each request is accepted at its turn, and the longest one. -/
structure LongestAccepted (t : Transaction) (l p : List MethodRequest) (u : Transaction) :
    Prop where
  begins : p <+: l
  accepts : t.Accepts p u
  longest : ∀ p' u', p' <+: l → t.Accepts p' u' → p' <+: p

/-- A first request that is accepted is part of every beginning that is. -/
theorem LongestAccepted.cons (hone : t.offer (.one r) = (.ok (), u))
    (h : u.LongestAccepted l p v) : t.LongestAccepted (r :: l) (r :: p) v where
  begins := List.cons_prefix_cons.2 ⟨rfl, h.begins⟩
  accepts := .cons hone h.accepts
  longest := by
    intro p' u' hp' haccepts
    cases haccepts with
    | nil => exact List.nil_prefix
    | cons hfirst hrest =>
        obtain ⟨rfl, hp⟩ := List.cons_prefix_cons.1 hp'
        rw [hone] at hfirst
        cases hfirst
        exact List.cons_prefix_cons.2 ⟨rfl, h.longest _ _ hp hrest⟩

/-- Where the first request is refused no beginning is accepted but the empty one. -/
theorem longestAccepted_of_refused {e : FlowError} (hone : t.offer (.one r) = (.error e, u)) :
    t.LongestAccepted (r :: l) [] t where
  begins := List.nil_prefix
  accepts := .nil t
  longest := by
    intro p' u' hp' haccepts
    cases haccepts with
    | nil => exact List.nil_prefix
    | cons hfirst hrest =>
        obtain ⟨rfl, -⟩ := List.cons_prefix_cons.1 hp'
        rw [hone] at hfirst
        cases hfirst

/-- Several requests: the longest beginning that is accepted stays, and the request after it, if
there is one, is refused in the name of all. -/
theorem offer_batch_spec (t : Transaction) (l : List MethodRequest) :
    ∃ rest u, l = t.taken l ++ rest ∧ t.LongestAccepted l (t.taken l) u ∧
      match rest with
      | [] => t.offer (.batch l) = (.ok (), u)
      | r :: _ => ∃ e, u.offer (.one r) = (.error e, u) ∧ t.offer (.batch l) = (.error e, u) := by
  induction l generalizing t with
  | nil => exact ⟨[], t, rfl, ⟨List.prefix_rfl, .nil t, fun p' u' hp' _ => hp'⟩, rfl⟩
  | cons r l ih =>
      obtain ⟨result, u, hone⟩ : ∃ result u, t.offer (.one r) = (result, u) := ⟨_, _, rfl⟩
      rw [offer_batch_cons, hone]
      cases result with
      | ok =>
          obtain ⟨rest, v, hl, hlongest, hanswer⟩ := ih u
          rw [taken_of_ok hone]
          exact ⟨rest, v, by rw [List.cons_append, ← hl], hlongest.cons hone, hanswer⟩
      | error e =>
          obtain ⟨rfl, -⟩ := offer_one_eq_error_iff.1 hone
          rw [taken_of_error hone]
          exact ⟨r :: l, u, rfl, longestAccepted_of_refused hone, e, hone, rfl⟩

theorem offer_batch_single (t : Transaction) (r : MethodRequest) :
    t.offer (.batch [r]) = t.offer (.one r) := by
  rw [offer_batch_cons]
  obtain ⟨result, u⟩ := t.offer (.one r)
  cases result with
  | ok => exact offer_batch_nil u
  | error e => rfl

/-- Whether it brings one request or several, a call leaves the transaction that accepts those
taken. -/
theorem accepts_offer (t : Transaction) (k : Call) :
    t.Accepts (t.taken k.requests) (t.offer k).2 := by
  have hbatch : ∀ l, t.Accepts (t.taken l) (t.offer (.batch l)).2 := by
    intro l
    obtain ⟨rest, u, -, hlongest, hanswer⟩ := t.offer_batch_spec l
    cases rest with
    | nil =>
        rw [hanswer]
        exact hlongest.accepts
    | cons r more =>
        obtain ⟨e, -, hanswer⟩ := hanswer
        rw [hanswer]
        exact hlongest.accepts
  cases k with
  | one r =>
      rw [← offer_batch_single]
      exact hbatch [r]
  | batch l => exact hbatch l

/-! ## Histories -/

/-- How a transaction is started: for a service, or with a first request. -/
inductive Start where
  | new (target : String)
  | ofRequest (r : MethodRequest)

/-- A transaction with the requests that it has accepted, in their order. -/
structure History where
  accepted : List MethodRequest
  transaction : Transaction

namespace History

/-- The history in the beginning. -/
def start : Start → History
  | .new target => { accepted := [], transaction := { target } }
  | .ofRequest r => { accepted := [r], transaction := .ofRequest r }

/-- The history with a call more. -/
def call (h : History) (k : Call) : History where
  accepted := h.accepted ++ h.transaction.taken k.requests
  transaction := (h.transaction.offer k).2

/-- The history of a transaction after some calls. -/
def ofCalls (first : Start) (calls : List Call) : History :=
  calls.foldl call (start first)

/-- A transaction has the requests that it accepted, and they fit together. -/
structure Recorded (h : History) : Prop extends Coherent h.transaction where
  requests : h.transaction.requests = h.accepted

theorem recorded_start (first : Start) : Recorded (start first) := by
  cases first with
  | new target => exact { targets := by simp [start], sources := List.nodup_nil, requests := rfl }
  | ofRequest r =>
      exact {
        targets := by simp [start, Transaction.ofRequest]
        sources := List.nodup_singleton _
        requests := rfl }

/-- Every call keeps what is recorded. -/
theorem Recorded.call {h : History} (hrec : h.Recorded) (k : Call) : (h.call k).Recorded where
  toCoherent := (h.transaction.accepts_offer k).coherent hrec.toCoherent
  requests := by
    rw [History.call, (h.transaction.accepts_offer k).eq, hrec.requests]

theorem recorded_ofCalls (first : Start) (calls : List Call) :
    (ofCalls first calls).Recorded := by
  induction calls using List.reverseRecOn with
  | nil => exact recorded_start first
  | append_singleton calls k ih =>
      rw [show ofCalls first (calls ++ [k]) = (ofCalls first calls).call k by simp [ofCalls]]
      exact ih.call k

end History

/-- After any calls on a transaction that was started in either way: its requests fit together and
are those that it accepted, in their order.  One more request is refused for its target or else for
its source, and a refusal changes nothing.  Of more requests the longest beginning stays in which
each is accepted at its turn; the first refusal answers for all, and where there is none all are
accepted. -/
theorem history_of_requests (first : Start) (calls : List Call) :
    let h := History.ofCalls first calls
    let t := h.transaction
    t.Coherent ∧ t.requests = h.accepted ∧
    (∀ r e u, t.offer (.one r) = (.error e, u) ↔ u = t ∧
      (r.target ≠ t.target ∧ e = .targetServiceMismatch t.target r.target ∨
        r.target = t.target ∧ (∃ q ∈ t.requests, q.source = r.source) ∧
          e = .duplicateSource r.source)) ∧
    ∀ l, ∃ rest u, l = t.taken l ++ rest ∧ t.LongestAccepted l (t.taken l) u ∧
      u = { t with requests := t.requests ++ t.taken l } ∧
      match rest with
      | [] => t.offer (.batch l) = (.ok (), u)
      | r :: _ => ∃ e, u.offer (.one r) = (.error e, u) ∧ t.offer (.batch l) = (.error e, u) := by
  intro h t
  have hrec : h.Recorded := History.recorded_ofCalls first calls
  refine ⟨hrec.toCoherent, hrec.requests, fun r e u => offer_one_eq_error_iff, fun l => ?_⟩
  obtain ⟨rest, u, hl, hlongest, hanswer⟩ := t.offer_batch_spec l
  exact ⟨rest, u, hl, hlongest, hlongest.accepts.eq, hanswer⟩

end StepUp.Transaction
