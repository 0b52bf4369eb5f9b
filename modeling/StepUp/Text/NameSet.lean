/-!
# Sets of names

A finite set of texts, kept as the list of its members in ascending code point order, so that two
sets are equal exactly when they have the same members (`NameSet.ext`) and a walk through a set
always meets the members in the same order.
-/

namespace StepUp.Text

/-- A finite set of texts in ascending order. -/
structure NameSet where
  names : List String
  ascending : names.Pairwise (· < ·)

namespace NameSet

/-- The list with a name at its place, unless it is there already. -/
def insertName (name : String) : List String → List String
  | [] => [name]
  | n :: rest =>
    if name < n then name :: n :: rest
    else if n < name then n :: insertName name rest
    else n :: rest

theorem mem_insertName {name x : String} {l : List String} :
    x ∈ insertName name l ↔ x = name ∨ x ∈ l := by
  induction l with
  | nil => simp [insertName]
  | cons n r ih =>
    unfold insertName
    split
    next => simp
    next hlt =>
      split
      next => simp only [List.mem_cons, ih]; exact or_left_comm
      next hgt =>
        have : name = n := String.le_antisymm hgt hlt
        subst this
        simp

theorem pairwise_insertName (name : String) {l : List String} (h : l.Pairwise (· < ·)) :
    (insertName name l).Pairwise (· < ·) := by
  induction l with
  | nil => simp [insertName]
  | cons n r ih =>
    have hr := List.pairwise_cons.1 h
    unfold insertName
    split
    next hlt =>
      refine List.pairwise_cons.2 ⟨fun x hx => ?_, h⟩
      rcases List.mem_cons.1 hx with rfl | hx
      · exact hlt
      · exact String.lt_trans hlt (hr.1 x hx)
    next =>
      split
      next hgt =>
        refine List.pairwise_cons.2 ⟨fun x hx => ?_, ih hr.2⟩
        rcases mem_insertName.1 hx with rfl | hx
        · exact hgt
        · exact hr.1 x hx
      next => exact h

/-- The set of no name. -/
def empty : NameSet := ⟨[], List.Pairwise.nil⟩

/-- The set with one name more. -/
def insert (s : NameSet) (name : String) : NameSet :=
  ⟨insertName name s.names, pairwise_insertName name s.ascending⟩

/-- The set of the names in a list. -/
def ofList (l : List String) : NameSet :=
  l.foldl insert empty

instance : Membership String NameSet := ⟨fun s x => x ∈ s.names⟩

instance (x : String) (s : NameSet) : Decidable (x ∈ s) :=
  inferInstanceAs (Decidable (x ∈ s.names))

/-- Whether a set has no member. -/
def isEmpty (s : NameSet) : Bool :=
  s.names.isEmpty

/-- Whether a name is a member. -/
def contains (s : NameSet) (name : String) : Bool :=
  s.names.contains name

/-! ## Members -/

theorem mem_insert {s : NameSet} {name x : String} : x ∈ s.insert name ↔ x = name ∨ x ∈ s :=
  mem_insertName

private theorem mem_foldl_insert {l : List String} {s : NameSet} {x : String} :
    x ∈ l.foldl insert s ↔ x ∈ l ∨ x ∈ s := by
  induction l generalizing s with
  | nil => simp
  | cons n r ih =>
    rw [List.foldl_cons, ih, mem_insert, List.mem_cons]
    constructor
    · rintro (h | h | h)
      · exact Or.inl (Or.inr h)
      · exact Or.inl (Or.inl h)
      · exact Or.inr h
    · rintro ((h | h) | h)
      · exact Or.inr (Or.inl h)
      · exact Or.inl h
      · exact Or.inr (Or.inr h)

@[simp] theorem mem_ofList {l : List String} {x : String} : x ∈ ofList l ↔ x ∈ l := by
  rw [ofList, mem_foldl_insert]
  exact or_iff_left (by intro h; cases h)

@[simp] theorem contains_iff {s : NameSet} {name : String} : s.contains name = true ↔ name ∈ s := by
  simp only [contains, List.contains_iff_mem]
  rfl

theorem isEmpty_iff {s : NameSet} : s.isEmpty = true ↔ ∀ x, x ∉ s := by
  rw [isEmpty, List.isEmpty_iff, List.eq_nil_iff_forall_not_mem]
  rfl

private theorem names_eq {l m : List String} (hl : l.Pairwise (· < ·)) (hm : m.Pairwise (· < ·))
    (h : ∀ x, x ∈ l ↔ x ∈ m) : l = m := by
  induction l generalizing m with
  | nil =>
    cases m with
    | nil => rfl
    | cons b s => exact absurd ((h b).2 List.mem_cons_self) (by simp)
  | cons a r ih =>
    cases m with
    | nil => exact absurd ((h a).1 List.mem_cons_self) (by simp)
    | cons b s =>
      have hr := List.pairwise_cons.1 hl
      have hs := List.pairwise_cons.1 hm
      have first : a = b := by
        refine String.le_antisymm (String.not_lt.1 fun hlt => ?_) (String.not_lt.1 fun hlt => ?_)
        · rcases List.mem_cons.1 ((h b).2 List.mem_cons_self) with hb | hb
          · exact String.lt_irrefl _ (hb ▸ hlt)
          · exact String.lt_asymm hlt (hr.1 b hb)
        · rcases List.mem_cons.1 ((h a).1 List.mem_cons_self) with ha | ha
          · exact String.lt_irrefl _ (ha ▸ hlt)
          · exact String.lt_asymm hlt (hs.1 a ha)
      subst first
      congr 1
      refine ih hr.2 hs.2 fun x => ⟨fun hx => ?_, fun hx => ?_⟩
      · rcases List.mem_cons.1 ((h x).1 (List.mem_cons_of_mem _ hx)) with rfl | hx'
        · exact absurd (hr.1 x hx) (String.lt_irrefl x)
        · exact hx'
      · rcases List.mem_cons.1 ((h x).2 (List.mem_cons_of_mem _ hx)) with rfl | hx'
        · exact absurd (hs.1 x hx) (String.lt_irrefl x)
        · exact hx'

/-- Sets with the same members are equal. -/
theorem ext {s t : NameSet} (h : ∀ x, x ∈ s ↔ x ∈ t) : s = t := by
  obtain ⟨l, hl⟩ := s
  obtain ⟨m, hm⟩ := t
  congr
  exact names_eq hl hm h

end NameSet

end StepUp.Text
