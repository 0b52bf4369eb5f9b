import Mathlib.Data.List.MinMax
import Mathlib.Data.List.Nodup
import Mathlib.Data.Prod.Lex
import Mathlib.Data.String.Basic
import StepUp.Method.Ranking

/-!
# The order of requests

`Registry.place` puts every request at its place in a linear order: by the rank of its method, then
by the name of the method, then by its source.  `Registry.IsStrongest` says that a request of a list
has a least place in it.

The ranking walks through a list and keeps the best request so far.  `Registry.strongest_eq` says
what the walk finds: it fails on the first request whose method is not registered, and gives the
first request of least place where all methods are.
-/

namespace StepUp

/-! ## The first of a list -/

/-- The first of a list with a property. -/
def IsFirst {α : Type} (P : α → Prop) (l : List α) (a : α) : Prop :=
  ∃ before after, l = before ++ a :: after ∧ P a ∧ ∀ b ∈ before, ¬ P b

theorem find?_eq_some_iff_isFirst {α : Type} {P : α → Prop} [DecidablePred P] {l : List α} {a : α} :
    l.find? (fun x => decide (P x)) = some a ↔ IsFirst P l a := by
  rw [List.find?_eq_some_iff_append]
  simp only [decide_eq_true_eq, Bool.not_eq_true', decide_eq_false_iff_not, IsFirst]
  constructor
  · rintro ⟨ha, before, after, hl, hbefore⟩
    exact ⟨before, after, hl, ha, hbefore⟩
  · rintro ⟨before, after, hl, ha, hbefore⟩
    exact ⟨ha, before, after, hl, hbefore⟩

/-! ## Registered names -/

namespace Registry

variable {reg : Registry} {name : String}

theorem contains_iff : reg.contains name = true ↔ ∃ m, reg.get? name = some m := by
  unfold contains
  exact Option.isSome_iff_exists

theorem require_of_get? {m : Method} (h : reg.get? name = some m) : reg.require name = .ok m := by
  simp [require, h]

theorem require_of_not_contains (h : reg.contains name = false) :
    reg.require name = .error (.unregisteredMethod name) := by
  have hnone : reg.get? name = none := by simpa [contains] using h
  simp [require, hnone]

theorem contains_of_require {m : Method} (h : reg.require name = .ok m) :
    reg.contains name = true := by
  unfold require at h
  split at h
  next m' hm => exact contains_iff.2 ⟨m', hm⟩
  next => cases h

theorem rank_of_get? {m : Method} (h : reg.get? name = some m) : reg.rank name = .ok m.rank := by
  simp [rank, require_of_get? h, Except.map]

theorem rank_of_not_contains (h : reg.contains name = false) :
    reg.rank name = .error (.unregisteredMethod name) := by
  simp [rank, require_of_not_contains h, Except.map]

/-- Two names are registered, and the first is at least as strong as the second. -/
def AtLeast (reg : Registry) (strong weak : String) : Prop :=
  ∃ m n, reg.get? strong = some m ∧ reg.get? weak = some n ∧ m.rank ≤ n.rank

theorem AtLeast.refl (h : reg.contains name = true) : reg.AtLeast name name := by
  obtain ⟨m, hm⟩ := contains_iff.1 h
  exact ⟨m, m, hm, hm, Int32.le_refl _⟩

theorem AtLeast.contains_left {a b : String} (h : reg.AtLeast a b) : reg.contains a = true := by
  obtain ⟨m, -, hm, -⟩ := h
  exact contains_iff.2 ⟨m, hm⟩

theorem AtLeast.trans {a b c : String} (hab : reg.AtLeast a b) (hbc : reg.AtLeast b c) :
    reg.AtLeast a c := by
  obtain ⟨m, n, hm, hn, hmn⟩ := hab
  obtain ⟨n', o, hn', ho, hno⟩ := hbc
  have heq : n = n' := by simpa [hn] using hn'
  subst heq
  exact ⟨m, o, hm, ho, Int32.le_trans hmn hno⟩

/-! ## Places -/

/-- The rank of a name as a number.  A name that is not registered is put at zero; the ranking
never compares such a name. -/
def rankOf (reg : Registry) (name : String) : ℤ :=
  match reg.get? name with
  | some m => m.rank.toInt
  | none => 0

/-- Places in the order of requests: by rank, then by name, then by source. -/
def Place : Type :=
  ℤ ×ₗ String ×ₗ ℕ

instance : LinearOrder Place :=
  inferInstanceAs (LinearOrder (ℤ ×ₗ String ×ₗ ℕ))

/-- The place of a request. -/
def place (reg : Registry) (r : MethodRequest) : Place :=
  toLex (reg.rankOf r.method, toLex (r.method, r.source.precedence))

/-- A request of the list before which no other one has its place. -/
structure IsStrongest (reg : Registry) (requests : List MethodRequest) (r : MethodRequest) :
    Prop where
  mem : r ∈ requests
  le : ∀ q ∈ requests, reg.place r ≤ reg.place q

/-- The first of the strongest requests of a list. -/
structure IsFirstStrongest (reg : Registry) (requests : List MethodRequest) (r : MethodRequest) :
    Prop extends IsStrongest reg requests r where
  first : ∀ q ∈ requests, reg.place q ≤ reg.place r → requests.idxOf r ≤ requests.idxOf q

theorem rankOf_of_get? {m : Method} (h : reg.get? name = some m) :
    reg.rankOf name = m.rank.toInt := by
  simp [rankOf, h]

theorem atLeast_iff_rankOf_le {strong weak : String} (hs : reg.contains strong = true)
    (hw : reg.contains weak = true) :
    reg.AtLeast strong weak ↔ reg.rankOf strong ≤ reg.rankOf weak := by
  obtain ⟨m, hm⟩ := contains_iff.1 hs
  obtain ⟨n, hn⟩ := contains_iff.1 hw
  rw [rankOf_of_get? hm, rankOf_of_get? hn, ← Int32.le_iff_toInt_le]
  constructor
  · rintro ⟨m', n', hm', hn', hle⟩
    rw [hm] at hm'
    rw [hn] at hn'
    cases hm'
    cases hn'
    exact hle
  · intro hle
    exact ⟨m, n, hm, hn, hle⟩

/-- A place is lesser exactly when the rank is, or the rank is the same and the name is lesser, or
both are the same and the source comes first. -/
theorem place_lt_iff {r q : MethodRequest} :
    reg.place r < reg.place q ↔ reg.rankOf r.method < reg.rankOf q.method ∨
      reg.rankOf r.method = reg.rankOf q.method ∧ (r.method < q.method ∨
        r.method = q.method ∧ r.source.precedence < q.source.precedence) := by
  change (toLex (reg.rankOf r.method, toLex (r.method, r.source.precedence)) : ℤ ×ₗ String ×ₗ ℕ) <
    toLex (reg.rankOf q.method, toLex (q.method, q.source.precedence)) ↔ _
  simp only [Prod.Lex.toLex_lt_toLex]

theorem rankOf_le_of_place_le {r q : MethodRequest} (h : reg.place r ≤ reg.place q) :
    reg.rankOf r.method ≤ reg.rankOf q.method := by
  rcases Prod.Lex.toLex_le_toLex.1 h with hlt | ⟨heq, -⟩
  · exact le_of_lt hlt
  · exact le_of_eq heq

theorem precedence_injective : Function.Injective MethodSource.precedence := by
  intro a b h
  cases a <;> cases b <;> simp_all [MethodSource.precedence]

theorem source_eq_of_place_eq {r q : MethodRequest} (h : reg.place r = reg.place q) :
    r.method = q.method ∧ r.source = q.source := by
  have hpair := congrArg (fun p => (ofLex p).2) h
  have hmethod := congrArg (fun p => (ofLex p).1) hpair
  have hsource := congrArg (fun p => (ofLex p).2) hpair
  exact ⟨hmethod, precedence_injective hsource⟩

/-- The comparison of the ranking is the order of places. -/
theorem precedes_iff {r q : MethodRequest} {m n : Method} (hr : reg.get? r.method = some m)
    (hq : reg.get? q.method = some n) :
    r.precedes m.rank n.rank q = true ↔ reg.place r < reg.place q := by
  rw [place_lt_iff, rankOf_of_get? hr, rankOf_of_get? hq]
  unfold MethodRequest.precedes
  by_cases hrank : m.rank = n.rank
  · by_cases hmethod : r.method = q.method
    · simp [hrank, hmethod]
    · simp [hrank, hmethod]
  · have hne : m.rank.toInt ≠ n.rank.toInt := fun h => hrank (Int32.toInt_inj.1 h)
    simp [hrank, hne, Int32.lt_iff_toInt_lt]

/-! ## The walk through a list -/

/-- The walk goes on from its best request as a search for a least place does. -/
theorem strongestFrom_eq {l : List MethodRequest} (hl : ∀ r ∈ l, reg.contains r.method = true)
    {best : Option (Int32 × MethodRequest)}
    (hbest : ∀ p ∈ best, ∃ m, reg.get? p.2.method = some m ∧ m.rank = p.1) :
    reg.strongestFrom best l =
      .ok (l.foldl (List.argAux fun b c => reg.place b < reg.place c) (best.map (·.2))) := by
  induction l generalizing best with
  | nil => rfl
  | cons r rest ih =>
      obtain ⟨m, hm⟩ := contains_iff.1 (hl r List.mem_cons_self)
      have hrest : ∀ q ∈ rest, reg.contains q.method = true :=
        fun q hq => hl q (List.mem_cons_of_mem _ hq)
      have hkept : ∀ p ∈ some (m.rank, r), ∃ m, reg.get? p.2.method = some m ∧ m.rank = p.1 := by
        intro p hp
        cases hp
        exact ⟨m, hm, rfl⟩
      rw [strongestFrom, rank_of_get? hm, List.foldl_cons]
      cases best with
      | none =>
          simp only [if_true, Option.map_none]
          rw [ih hrest hkept]
          rfl
      | some current =>
          obtain ⟨n, hn, hrank⟩ := hbest current rfl
          have hbetter := precedes_iff hm hn
          rw [hrank] at hbetter
          simp only [Option.map_some, List.argAux]
          by_cases hlt : reg.place r < reg.place current.2
          · simp only [hbetter.2 hlt, hlt, if_true]
            exact ih hrest hkept
          · have hworse : r.precedes m.rank current.1 current.2 = false := by
              simpa using mt hbetter.1 hlt
            simp only [hworse, hlt, if_false, Bool.false_eq_true]
            exact ih hrest hbest

/-- The walk fails on the first request whose method is not registered. -/
theorem strongestFrom_error {l : List MethodRequest} {r : MethodRequest}
    (h : l.find? (fun q => !reg.contains q.method) = some r)
    (best : Option (Int32 × MethodRequest)) :
    reg.strongestFrom best l = .error (.unregisteredMethod r.method) := by
  induction l generalizing best with
  | nil => simp at h
  | cons q rest ih =>
      rw [strongestFrom]
      cases hq : reg.contains q.method with
      | false =>
          have heq : q = r := by simpa [List.find?_cons, hq] using h
          rw [rank_of_not_contains hq, heq]
      | true =>
          obtain ⟨m, hm⟩ := contains_iff.1 hq
          rw [rank_of_get? hm]
          exact ih (by simpa [List.find?_cons, hq] using h) _

/-- The strongest request of a list is its first request of least place, once every method is
registered; else the first method that is not is reported. -/
theorem strongest_eq (reg : Registry) (l : List MethodRequest) :
    reg.strongest l = match l.find? fun q => !reg.contains q.method with
      | some r => .error (.unregisteredMethod r.method)
      | none => .ok (l.argmin reg.place) := by
  unfold strongest
  cases h : l.find? fun q => !reg.contains q.method with
  | some r => exact strongestFrom_error h none
  | none =>
      have hl : ∀ r ∈ l, reg.contains r.method = true := by simpa using h
      rw [strongestFrom_eq hl (by simp)]
      rfl

theorem strongest_of_registered {l : List MethodRequest}
    (hl : ∀ r ∈ l, reg.contains r.method = true) : reg.strongest l = .ok (l.argmin reg.place) := by
  have hnone : l.find? (fun q => !reg.contains q.method) = none := by simpa using hl
  rw [strongest_eq, hnone]

theorem strongest_eq_ok_iff {l : List MethodRequest} {o : Option MethodRequest} :
    reg.strongest l = .ok o ↔
      (∀ r ∈ l, reg.contains r.method = true) ∧ o = l.argmin reg.place := by
  constructor
  · intro h
    have hl : ∀ r ∈ l, reg.contains r.method = true := by
      rw [strongest_eq] at h
      split at h
      · cases h
      · next hnone => simpa using hnone
    rw [strongest_of_registered hl] at h
    exact ⟨hl, (Except.ok.inj h).symm⟩
  · rintro ⟨hl, rfl⟩
    exact strongest_of_registered hl

/-- The ranking honors the first of the strongest requests, once every method is registered. -/
theorem strongest_eq_some_iff {l : List MethodRequest} {r : MethodRequest} :
    reg.strongest l = .ok (some r) ↔
      (∀ q ∈ l, reg.contains q.method = true) ∧ reg.IsFirstStrongest l r := by
  rw [strongest_eq_ok_iff, eq_comm, List.argmin_eq_some_iff]
  refine and_congr_right fun _ => ⟨?_, fun h => ⟨h.mem, h.le, h.first⟩⟩
  rintro ⟨hmem, hle, hfirst⟩
  exact ⟨⟨hmem, hle⟩, hfirst⟩

/-- The ranking fails with the first method of a list that is not registered. -/
theorem strongest_eq_error_iff {l : List MethodRequest} {e : ServiceError} :
    reg.strongest l = .error e ↔
      ∃ r, l.find? (fun q => !reg.contains q.method) = some r ∧
        e = .unregisteredMethod r.method := by
  rw [strongest_eq]
  cases l.find? fun q => !reg.contains q.method with
  | none => simp
  | some r => simp [eq_comm]

/-- The ranking honors nothing else than a request of least place among registered ones. -/
theorem isStrongest_of_strongest {l : List MethodRequest} {r : MethodRequest}
    (h : reg.strongest l = .ok (some r)) :
    (∀ q ∈ l, reg.contains q.method = true) ∧ reg.IsStrongest l r := by
  obtain ⟨hl, hr⟩ := strongest_eq_some_iff.1 h
  exact ⟨hl, hr.toIsStrongest⟩

theorem contains_of_strongest {l : List MethodRequest} {r : MethodRequest}
    (h : reg.strongest l = .ok (some r)) : reg.contains r.method = true := by
  obtain ⟨hregistered, hstrongest⟩ := isStrongest_of_strongest h
  exact hregistered r hstrongest.mem

/-- Some registered request of a list that is not empty is honored. -/
theorem exists_strongest {l : List MethodRequest} (hl : ∀ r ∈ l, reg.contains r.method = true)
    (hne : l ≠ []) : ∃ r, reg.strongest l = .ok (some r) := by
  cases hr : l.argmin reg.place with
  | none => exact absurd (List.argmin_eq_none.1 hr) hne
  | some r => exact ⟨r, by rw [strongest_of_registered hl, hr]⟩

/-- The strongest of some registered requests is at least as strong as each of them. -/
theorem IsStrongest.atLeast {l : List MethodRequest} (hl : ∀ q ∈ l, reg.contains q.method = true)
    {r q : MethodRequest} (hr : reg.IsStrongest l r) (hq : q ∈ l) :
    reg.AtLeast r.method q.method := by
  rw [atLeast_iff_rankOf_le (hl r hr.mem) (hl q hq)]
  exact rankOf_le_of_place_le (hr.le q hq)

/-- Of requests from different sources only one is the strongest. -/
theorem IsStrongest.unique {l : List MethodRequest} (hsources : (l.map (·.source)).Nodup)
    {r q : MethodRequest} (hr : reg.IsStrongest l r) (hq : reg.IsStrongest l q) : r = q := by
  have hplace : reg.place r = reg.place q := le_antisymm (hr.le q hq.mem) (hq.le r hr.mem)
  exact List.inj_on_of_nodup_map hsources hr.mem hq.mem (source_eq_of_place_eq hplace).2

/-- Of requests for one target only one is the strongest. -/
theorem IsStrongest.eq_of_target {l : List MethodRequest} {r q : MethodRequest}
    (hr : reg.IsStrongest l r) (hq : reg.IsStrongest l q) (htarget : r.target = q.target) :
    r = q := by
  have hplace : reg.place r = reg.place q := le_antisymm (hr.le q hq.mem) (hq.le r hr.mem)
  obtain ⟨hmethod, hsource⟩ := source_eq_of_place_eq hplace
  cases r
  cases q
  cases hmethod
  cases hsource
  cases htarget
  rfl

theorem IsStrongest.perm {l m : List MethodRequest} {r : MethodRequest}
    (hr : reg.IsStrongest l r) (h : l.Perm m) : reg.IsStrongest m r where
  mem := h.mem_iff.1 hr.mem
  le := fun q hq => hr.le q (h.mem_iff.2 hq)

/-- Which of some registered requests for one target is honored does not depend on their order. -/
theorem strongest_perm {l m : List MethodRequest} (hl : ∀ r ∈ l, reg.contains r.method = true)
    (htarget : ∀ r ∈ l, ∀ q ∈ l, r.target = q.target) (h : l.Perm m) :
    reg.strongest m = reg.strongest l := by
  have hm : ∀ r ∈ m, reg.contains r.method = true := fun r hr => hl r (h.mem_iff.2 hr)
  by_cases hnil : l = []
  · subst hnil
    rw [h.nil_eq]
  · have hnil' : m ≠ [] := by
      rintro rfl
      exact hnil h.eq_nil
    obtain ⟨r, hr⟩ := exists_strongest hl hnil
    obtain ⟨q, hq⟩ := exists_strongest hm hnil'
    have hfirst := (isStrongest_of_strongest hr).2
    have hmoved := (isStrongest_of_strongest hq).2.perm h.symm
    rw [hr, hq, hmoved.eq_of_target hfirst (htarget q hmoved.mem r hfirst.mem)]

end Registry

end StepUp
