import StepUp.Proofs.Composite.Append

/-!
# The methods of a composite

A chain composes into one authentication whose attributes are merged from all that were chained.
This file shows that merging neither loses nor invents a satisfied method: the composite records
exactly the methods that the chain does (`Chain.satisfiedMethods_compose`).

A merge is described name by name by `mergedEntry`, so that nothing after `Attributes.get?_merge`
looks at the lists of entries.  Of a merged value only its texts matter here, and they are those of
the two values (`Json.str_mem_mergedValue`).
-/

namespace StepUp

/-! ## Elements of values -/

namespace Json

theorem same_str_iff {v : Json} {x : String} : v.same (.str x) = true ↔ v = .str x := by
  cases v <;> simp [same]

theorem normal_elements {v : Json} (h : v.Normal) : ∀ e ∈ v.elements, e.Normal := by
  intro e he
  cases v with
  | arr items => exact normalItems_iff.1 h e he
  | obj members =>
      obtain ⟨m, hm, rfl⟩ := List.mem_map.1 he
      exact normalMembers_iff.1 h.2 m hm
  | null => cases he
  | bool _ | int _ | float _ | str _ => rw [List.mem_singleton.1 he]; exact h

theorem mem_of_mem_distinctValues {done l : List Json} {e : Json}
    (h : e ∈ distinctValues done l) : e ∈ done ∨ e ∈ l := by
  induction l generalizing done with
  | nil => exact Or.inl h
  | cons v rest ih =>
      unfold distinctValues at h
      split at h
      · exact (ih h).imp id (List.mem_cons_of_mem v)
      · rcases ih h with hdone | hrest
        · rcases List.mem_append.1 hdone with hdone | hv
          · exact Or.inl hdone
          · exact Or.inr (List.mem_cons.2 (Or.inl (List.mem_singleton.1 hv)))
        · exact Or.inr (List.mem_cons_of_mem v hrest)

/-- No text gets lost among distinct values: one that is left out is there already. -/
theorem str_mem_distinctValues {done l : List Json} {x : String} :
    .str x ∈ distinctValues done l ↔ .str x ∈ done ∨ .str x ∈ l := by
  refine ⟨mem_of_mem_distinctValues, ?_⟩
  induction l generalizing done with
  | nil => simp [distinctValues]
  | cons v rest ih =>
      intro h
      unfold distinctValues
      split
      next hsame =>
          apply ih
          rcases h with hdone | hmem
          · exact Or.inl hdone
          · rcases List.mem_cons.1 hmem with rfl | hrest
            · obtain ⟨d, hd, heq⟩ := List.any_eq_true.1 hsame
              rw [same_str_iff.1 heq] at hd
              exact Or.inl hd
            · exact Or.inr hrest
      next =>
          apply ih
          rcases h with hdone | hmem
          · exact Or.inl (List.mem_append_left _ hdone)
          · rcases List.mem_cons.1 hmem with rfl | hrest
            · exact Or.inl (by simp)
            · exact Or.inr hrest

theorem normal_mergedValue {v w : Json} (hv : v.Normal) (hw : w.Normal) :
    (mergedValue v w).Normal := by
  refine normalItems_iff.2 fun e he => ?_
  rcases mem_of_mem_distinctValues he with hnil | hmem
  · cases hnil
  · rcases List.mem_append.1 hmem with hev | hew
    · exact normal_elements hv e hev
    · exact normal_elements hw e hew

theorem str_mem_mergedValue {v w : Json} {x : String} :
    .str x ∈ (mergedValue v w).elements ↔ .str x ∈ v.elements ∨ .str x ∈ w.elements := by
  rw [show (mergedValue v w).elements = distinctValues [] (v.elements ++ w.elements) from rfl,
    str_mem_distinctValues, List.mem_append]
  simp

end Json

/-! ## Merged attributes, name by name -/

/-- The value of a name in merged attributes, from its values in the two that are merged. -/
def mergedEntry : Option Json → Option Json → Option Json
  | some v, some w => some (mergedValue v w)
  | some v, none => some v
  | none, w => w

namespace Attributes

theorem normal_of_get? {a : Attributes} {name : String} {v : Json} (h : a.get? name = some v) :
    v.Normal :=
  Json.normalMembers_iff.1 a.normal.2 _ (Text.mem_of_find? h)

/-- Entries are put into attributes one after the other.  Where each changes the value of its own
name only, a name has in the end what its one entry makes of its value. -/
theorem get?_foldl (alter : Option Json → Json → Option Json)
    {step : Attributes → String × Json → Attributes}
    (hstep : ∀ (acc : Attributes) (e : String × Json), e.2.Normal → ∀ name, (step acc e).get? name =
      if name = e.1 then alter (acc.get? e.1) e.2 else acc.get? name)
    (a b : Attributes) (name : String) :
    (b.entries.foldl step a).get? name =
      match b.get? name with
      | some v => alter (a.get? name) v
      | none => a.get? name := by
  obtain ⟨entries, hascending, hnormal⟩ := b
  rw [show get? ⟨entries, hascending, hnormal⟩ name = Text.find? name entries from rfl]
  change (entries.foldl step a).get? name = _
  induction entries generalizing a with
  | nil => rfl
  | cons e rest ih =>
      have hrest := List.pairwise_cons.1 hascending
      rw [List.foldl_cons, ih _ hrest.2 hnormal.2, hstep a e hnormal.1]
      by_cases hname : name = e.1
      · -- the keys ascend, so the name does not come again in the rest
        have hnone : Text.find? name rest = none :=
          Text.find?_eq_none_of_forall_lt fun f hf => hname ▸ hrest.1 f hf
        rw [hnone, if_pos hname]
        simp [Text.find?, hname]
      · simp [Text.find?, hname]

theorem get?_merge (a b : Attributes) (name : String) :
    (a.merge b).get? name = mergedEntry (a.get? name) (b.get? name) := by
  have hstep : ∀ (acc : Attributes) (e : String × Json), e.2.Normal → ∀ name,
      (match acc.get? e.1 with
        | some v => acc.insert e.1 (mergedValue v e.2)
        | none => acc.insert e.1 e.2).get? name =
      if name = e.1 then mergedEntry (acc.get? e.1) (some e.2) else acc.get? name := by
    intro acc e he name
    cases hkey : acc.get? e.1 with
    | none => simp [get?_insert, mergedEntry, Json.normalize_eq_self _ he]
    | some v =>
        have hnormal := Json.normal_mergedValue (normal_of_get? hkey) he
        simp [get?_insert, mergedEntry, Json.normalize_eq_self _ hnormal]
  refine (get?_foldl (fun v w => mergedEntry v (some w)) hstep a b name).trans ?_
  cases b.get? name with
  | none => cases a.get? name <;> rfl
  | some w => rfl

/-! ## Satisfied methods -/

theorem mem_satisfiedMethods {a : Attributes} {x : String} :
    x ∈ a.satisfiedMethods ↔ ∃ v, a.get? authnMethodAttribute = some v ∧ .str x ∈ v.elements := by
  have hstr : ∀ v : Json, v.asStr? = some x ↔ v = .str x := by
    intro v
    cases v <;> simp [Json.asStr?]
  unfold satisfiedMethods
  cases h : a.get? authnMethodAttribute with
  | none =>
      refine iff_of_false (fun hx => ?_) ?_
      · cases hx
      · rintro ⟨v, hv, -⟩
        cases hv
  | some v => simp [hstr]

theorem mem_satisfiedMethods_merge {a b : Attributes} {x : String} :
    x ∈ (a.merge b).satisfiedMethods ↔ x ∈ a.satisfiedMethods ∨ x ∈ b.satisfiedMethods := by
  simp only [mem_satisfiedMethods, get?_merge]
  cases a.get? authnMethodAttribute <;> cases b.get? authnMethodAttribute <;>
    simp [mergedEntry, Json.str_mem_mergedValue]

theorem mem_satisfiedMethods_foldl_merge {l : List Authentication} {acc : Attributes}
    {x : String} :
    x ∈ (l.foldl (fun acc a => acc.merge a.attributes) acc).satisfiedMethods ↔
      x ∈ acc.satisfiedMethods ∨ ∃ a ∈ l, x ∈ a.satisfiedMethods := by
  induction l generalizing acc with
  | nil => simp
  | cons a rest ih =>
      rw [List.foldl_cons, ih, mem_satisfiedMethods_merge, or_assoc]
      simp [Authentication.satisfiedMethods]

end Attributes

theorem Chain.mem_satisfiedMethods {c : Chain} {x : String} :
    x ∈ c.satisfiedMethods ↔ ∃ a ∈ c.authentications, x ∈ a.satisfiedMethods := by
  simp only [satisfiedMethods, Text.NameSet.mem_ofList, List.mem_flatMap]
  rfl

/-- The composite of a chain records the methods that the chain records. -/
theorem Chain.satisfiedMethods_compose {c : Chain} {now : Time.Timestamp} {composite : Composite}
    (h : c.compose now = .ok composite) :
    composite.toAuthentication.satisfiedMethods = c.satisfiedMethods := by
  apply Text.NameSet.ext
  intro x
  unfold compose at h
  split at h
  next => cases h
  next first rest hc =>
      cases h
      rw [Chain.mem_satisfiedMethods, hc]
      refine Attributes.mem_satisfiedMethods_foldl_merge.trans (or_iff_right ?_)
      rw [Attributes.mem_satisfiedMethods]
      rintro ⟨v, hv, -⟩
      cases hv

/-- Of every chain that was begun there is a composite.  It records as satisfied exactly what the
chain does, and that is what any of its authentications records. -/
theorem Chain.composite_records_every_step {c : Chain} (hne : c.isEmpty = false)
    (now : Time.Timestamp) :
    ∃ composite, c.compose now = .ok composite ∧
      composite.toAuthentication.satisfiedMethods = c.satisfiedMethods ∧
      ∀ x, x ∈ c.satisfiedMethods ↔ ∃ a ∈ c.authentications, x ∈ a.satisfiedMethods := by
  obtain ⟨composite, hcompose⟩ := exists_compose hne now
  exact ⟨composite, hcompose, satisfiedMethods_compose hcompose, fun x => mem_satisfiedMethods⟩

/-- A chain whose steps record methods in a text, in a list of more than texts and in an object. -/
def Chain.threeRecords : Chain where
  authentications :=
    [.str "otp", .arr [.arr [.str "push"], .str "duo", .null, .str "otp"],
      .obj [("first", .str "duo"), ("second", .int 2)]].map fun v =>
        { principal := ⟨"alice", .empty⟩, attributes := Attributes.empty.insert "authn_method" v }

theorem Chain.composite_records_three_steps :
    threeRecords.isEmpty = false ∧ threeRecords.satisfiedMethods.names = ["duo", "otp"] ∧
    ∃ composite, threeRecords.compose .epoch = .ok composite ∧
      composite.toAuthentication.satisfiedMethods = threeRecords.satisfiedMethods ∧
      ∀ x, x ∈ threeRecords.satisfiedMethods ↔
        ∃ a ∈ threeRecords.authentications, x ∈ a.satisfiedMethods :=
  ⟨rfl, rfl, composite_records_every_step rfl .epoch⟩

end StepUp
