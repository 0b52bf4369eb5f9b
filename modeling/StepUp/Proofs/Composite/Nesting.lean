import StepUp.Proofs.Composite.Append
import StepUp.Proofs.Composite.Methods

/-!
# Composites of composites

A composite counts as one authentication, and as the session of a later login it is chained again.
This file shows that nothing depends on how often that happened: wherever a composite stands in a
chain, composing the chain gives the identity and the attributes that the authentications it was
made of would give in its place (`Chain.composite_stands_for_its_parts`).

Both kinds of attributes are gathered by a fold with an associative operation whose unit is the
empty attributes: `Attributes.overlay` for those of the principals, `Attributes.merge` for those of
the authentications.  The second is the one to prove something about, since a value that one
authentication has stays as it is, while the values that several have become a list.  That list
keeps the first of equal elements, and those need not be one and the same: the two zeros are equal.
So to make distinct what was made distinct before (`Json.distinctValues_distinctValues`) takes that
equality is transitive (`Json.same_trans`).
-/

namespace StepUp

/-! ## Equality of values -/

namespace Decimal.Binary64

theorem same_refl (d : Binary64) : d.same d = true := by
  simp [same]

theorem same_trans {a b c : Binary64} (hab : a.same b = true) (hbc : b.same c = true) :
    a.same c = true := by
  simp only [same, Bool.or_eq_true, Bool.and_eq_true, beq_iff_eq] at hab hbc ⊢
  rcases hab with rfl | ⟨ha, hb⟩
  · exact hbc
  · rcases hbc with rfl | ⟨-, hc⟩
    · exact Or.inr ⟨ha, hb⟩
    · exact Or.inr ⟨ha, hc⟩

end Decimal.Binary64

namespace Json

mutual

theorem same_refl : (v : Json) → v.same v = true
  | .null => rfl
  | .bool _ | .int _ | .str _ => by simp [same]
  | .float d => d.same_refl
  | .arr items => sameItems_refl items
  | .obj members => sameMembers_refl members

theorem sameItems_refl : (items : List Json) → sameItems items items = true
  | [] => rfl
  | v :: rest => by simp [sameItems, same_refl v, sameItems_refl rest]

theorem sameMembers_refl : (members : List (String × Json)) → sameMembers members members = true
  | [] => rfl
  | (k, v) :: rest => by simp [sameMembers, same_refl v, sameMembers_refl rest]

end

mutual

theorem same_trans : {u v w : Json} → u.same v = true → v.same w = true → u.same w = true
  | .null, .null, .null, _, _ => rfl
  | .bool _, .bool _, .bool _, huv, hvw | .int _, .int _, .int _, huv, hvw
  | .str _, .str _, .str _, huv, hvw => beq_iff_eq.2 ((beq_iff_eq.1 huv).trans (beq_iff_eq.1 hvw))
  | .float _, .float _, .float _, huv, hvw => Decimal.Binary64.same_trans huv hvw
  | .arr _, .arr _, .arr _, huv, hvw => sameItems_trans huv hvw
  | .obj _, .obj _, .obj _, huv, hvw => sameMembers_trans huv hvw

theorem sameItems_trans : {l m n : List Json} →
    sameItems l m = true → sameItems m n = true → sameItems l n = true
  | [], [], [], _, _ => rfl
  | _ :: _, _ :: _, _ :: _, hlm, hmn => by
    simp only [sameItems, Bool.and_eq_true] at hlm hmn ⊢
    exact ⟨same_trans hlm.1 hmn.1, sameItems_trans hlm.2 hmn.2⟩

theorem sameMembers_trans : {l m n : List (String × Json)} →
    sameMembers l m = true → sameMembers m n = true → sameMembers l n = true
  | [], [], [], _, _ => rfl
  | (_, _) :: _, (_, _) :: _, (_, _) :: _, hlm, hmn => by
    simp only [sameMembers, Bool.and_eq_true, beq_iff_eq] at hlm hmn ⊢
    exact ⟨⟨hlm.1.1.trans hmn.1.1, same_trans hlm.1.2 hmn.1.2⟩, sameMembers_trans hlm.2 hmn.2⟩

end

/-! ## Distinct values -/

theorem distinctValues_append (done l m : List Json) :
    distinctValues done (l ++ m) = distinctValues (distinctValues done l) m := by
  induction l generalizing done with
  | nil => rfl
  | cons v rest ih =>
      simp only [List.cons_append, distinctValues]
      split
      · exact ih done
      · exact ih (done ++ [v])

theorem mem_distinctValues_of_mem {done l : List Json} {v : Json} (h : v ∈ done) :
    v ∈ distinctValues done l := by
  induction l generalizing done with
  | nil => exact h
  | cons w rest ih =>
      unfold distinctValues
      split
      · exact ih h
      · exact ih (List.mem_append_left _ h)

/-- Every value of a list is equal to one of the distinct values. -/
theorem exists_same_distinctValues (done : List Json) {l : List Json} {v : Json} (h : v ∈ l) :
    ∃ d ∈ distinctValues done l, d.same v = true := by
  induction l generalizing done with
  | nil => cases h
  | cons w rest ih =>
      unfold distinctValues
      split
      next hsame =>
          rcases List.mem_cons.1 h with rfl | hrest
          · obtain ⟨d, hd, heq⟩ := List.any_eq_true.1 hsame
            exact ⟨d, mem_distinctValues_of_mem hd, heq⟩
          · exact ih done hrest
      next =>
          rcases List.mem_cons.1 h with rfl | hrest
          · exact ⟨v, mem_distinctValues_of_mem (by simp), same_refl v⟩
          · exact ih (done ++ [w]) hrest

/-- Values that were made distinct before are added as all of them would be. -/
theorem distinctValues_distinctValues (done base l : List Json) :
    distinctValues done (distinctValues base l) = distinctValues (distinctValues done base) l := by
  induction l generalizing base with
  | nil => rfl
  | cons v rest ih =>
      by_cases hv : (base.any fun b => b.same v) = true
      · -- `v` is left out on the left, and on the right for what stands for its equal there
        have hthere : ((distinctValues done base).any fun d => d.same v) = true := by
          obtain ⟨b, hb, hbv⟩ := List.any_eq_true.1 hv
          obtain ⟨d, hd, hdb⟩ := exists_same_distinctValues done hb
          exact List.any_eq_true.2 ⟨d, hd, same_trans hdb hbv⟩
        calc distinctValues done (distinctValues base (v :: rest))
            = distinctValues done (distinctValues base rest) := by rw [distinctValues, if_pos hv]
          _ = distinctValues (distinctValues done base) rest := ih base
          _ = distinctValues (distinctValues done base) (v :: rest) := by
            rw [distinctValues, if_pos hthere]
      · calc distinctValues done (distinctValues base (v :: rest))
            = distinctValues done (distinctValues (base ++ [v]) rest) := by
              rw [distinctValues, if_neg hv]
          _ = distinctValues (distinctValues done (base ++ [v])) rest := ih (base ++ [v])
          _ = distinctValues (distinctValues (distinctValues done base) [v]) rest := by
            rw [distinctValues_append]
          _ = distinctValues (distinctValues done base) (v :: rest) := by
            rw [← distinctValues_append, List.singleton_append]

theorem distinctValues_append_left (l m : List Json) :
    distinctValues [] (distinctValues [] l ++ m) = distinctValues [] (l ++ m) := by
  have hleft : distinctValues [] (distinctValues [] l) = distinctValues [] l :=
    distinctValues_distinctValues [] [] l
  rw [distinctValues_append, hleft, ← distinctValues_append]

theorem distinctValues_append_right (l m : List Json) :
    distinctValues [] (l ++ distinctValues [] m) = distinctValues [] (l ++ m) := by
  have hright : distinctValues (distinctValues [] l) (distinctValues [] m) =
      distinctValues (distinctValues [] l) m :=
    distinctValues_distinctValues (distinctValues [] l) [] m
  rw [distinctValues_append, hright, ← distinctValues_append]

/-- Merging values is associative. -/
theorem mergedValue_assoc (u v w : Json) :
    mergedValue (mergedValue u v) w = mergedValue u (mergedValue v w) := by
  calc mergedValue (mergedValue u v) w
      = .arr (distinctValues [] (u.elements ++ v.elements ++ w.elements)) :=
        congrArg Json.arr (distinctValues_append_left _ _)
    _ = .arr (distinctValues [] (u.elements ++ (v.elements ++ w.elements))) := by
      rw [List.append_assoc]
    _ = mergedValue u (mergedValue v w) :=
      congrArg Json.arr (distinctValues_append_right _ _).symm

end Json

/-! ## Gathering attributes -/

theorem mergedEntry_assoc (u v w : Option Json) :
    mergedEntry (mergedEntry u v) w = mergedEntry u (mergedEntry v w) := by
  cases u <;> cases v <;> cases w <;> simp [mergedEntry, Json.mergedValue_assoc]

namespace Attributes

theorem get?_empty (name : String) : empty.get? name = none :=
  rfl

theorem merge_assoc (a b c : Attributes) : (a.merge b).merge c = a.merge (b.merge c) := by
  apply ext
  intro name
  simp only [get?_merge, mergedEntry_assoc]

theorem empty_merge (a : Attributes) : empty.merge a = a := by
  apply ext
  intro name
  rw [get?_merge, get?_empty, mergedEntry]

theorem merge_empty (a : Attributes) : a.merge empty = a :=
  rfl

/-- Of a name in both the upper attributes decide. -/
theorem get?_overlay (a b : Attributes) (name : String) :
    (a.overlay b).get? name = (b.get? name).or (a.get? name) := by
  have hstep : ∀ (acc : Attributes) (e : String × Json), e.2.Normal → ∀ name,
      (acc.insert e.1 e.2).get? name = if name = e.1 then some e.2 else acc.get? name := by
    intro acc e he name
    rw [get?_insert, Json.normalize_eq_self _ he]
  refine (get?_foldl (fun _ w => some w) hstep a b name).trans ?_
  cases b.get? name <;> rfl

theorem overlay_assoc (a b c : Attributes) :
    (a.overlay b).overlay c = a.overlay (b.overlay c) := by
  apply ext
  intro name
  simp only [get?_overlay, Option.or_assoc]

theorem empty_overlay (a : Attributes) : empty.overlay a = a := by
  apply ext
  intro name
  rw [get?_overlay, get?_empty, Option.or_none]

theorem overlay_empty (a : Attributes) : a.overlay empty = a :=
  rfl

instance : Std.Associative merge where
  assoc := merge_assoc

instance : Std.LawfulIdentity merge empty where
  left_id := empty_merge
  right_id := merge_empty

instance : Std.Associative overlay where
  assoc := overlay_assoc

instance : Std.LawfulIdentity overlay empty where
  left_id := empty_overlay
  right_id := overlay_empty

end Attributes

/-- What an associative operation makes of a part of a list stands for that part. -/
theorem foldl_nested {α : Type} {op : α → α → α} {unit : α} [Std.Associative op]
    [Std.LawfulIdentity op unit] (before part after : List α) :
    (before ++ part.foldl op unit :: after).foldl op unit =
      (before ++ part ++ after).foldl op unit := by
  have hpart : op (before.foldl op unit) (part.foldl op unit) =
      part.foldl op (before.foldl op unit) := by
    calc op (before.foldl op unit) (part.foldl op unit)
        = part.foldl op (op (before.foldl op unit) unit) := List.foldl_assoc.symm
      _ = part.foldl op (before.foldl op unit) :=
        congrArg (part.foldl op) (Std.LawfulRightIdentity.right_id _)
  rw [List.foldl_append, List.foldl_cons, hpart, List.foldl_append, List.foldl_append]

/-! ## Composites in a chain -/

namespace Composite

/-- A composite carries what authentications of one principal give together. -/
structure Gathers (composite : Composite) (id : String) (l : List Authentication) : Prop where
  identity : composite.principal.id = id
  principal : composite.principal.attributes =
    (l.map (·.principal.attributes)).foldl Attributes.overlay .empty
  attributes : composite.attributes = (l.map (·.attributes)).foldl Attributes.merge .empty

variable {inner outer : Composite} {id : String} {before parts after : List Authentication}

/-- What a composite carries counts in a chain as the authentications that gave it. -/
theorem Gathers.nested (hinner : inner.Gathers id parts)
    (houter : outer.Gathers id (before ++ inner.toAuthentication :: after)) :
    outer.Gathers id (before ++ parts ++ after) where
  identity := houter.identity
  principal := by
    calc outer.principal.attributes
        = (before.map (·.principal.attributes) ++ inner.principal.attributes ::
            after.map (·.principal.attributes)).foldl Attributes.overlay .empty := by
          rw [houter.principal, List.map_append, List.map_cons]
          rfl
      _ = ((before ++ parts ++ after).map (·.principal.attributes)).foldl
            Attributes.overlay .empty := by
          rw [hinner.principal, foldl_nested, List.map_append, List.map_append]
  attributes := by
    calc outer.attributes
        = (before.map (·.attributes) ++ inner.attributes ::
            after.map (·.attributes)).foldl Attributes.merge .empty := by
          rw [houter.attributes, List.map_append, List.map_cons]
          rfl
      _ = ((before ++ parts ++ after).map (·.attributes)).foldl Attributes.merge .empty := by
          rw [hinner.attributes, foldl_nested, List.map_append, List.map_append]

end Composite

namespace Chain

/-- The composite of a chain gathers all that was chained. -/
theorem gathers_of_compose {c : Chain} {id : String} {now : Time.Timestamp} {composite : Composite}
    (hof : c.Of id) (h : c.compose now = .ok composite) :
    composite.Gathers id c.authentications := by
  have hidentity := hof.compose h
  unfold compose at h
  split at h
  next => cases h
  next first rest hc =>
      cases h
      refine ⟨hidentity, ?_, ?_⟩
      · rw [hc, List.foldl_map]
      · rw [hc, List.foldl_map]

/-- The composite of authentications that are chained one after the other. -/
def compositeOf (l : List Authentication) (now : Time.Timestamp) : Except FlowError Composite :=
  (Chain.empty.appendAll l).bind (·.compose now)

/-- Authentications of one principal, at least one, have a composite. -/
theorem exists_compositeOf {l : List Authentication} {id : String} (hne : l ≠ [])
    (hl : ∀ a ∈ l, a.principal.id = id) (now : Time.Timestamp) :
    ∃ composite, compositeOf l now = .ok composite ∧ composite.Gathers id l := by
  have happend : Chain.empty.appendAll l = .ok { Chain.empty with authentications := l } :=
    (of_isEmpty rfl id).appendAll hl
  have hbegun : ({ Chain.empty with authentications := l } : Chain).isEmpty = false := by
    simpa [isEmpty] using hne
  have hof : ({ Chain.empty with authentications := l } : Chain).Of id := hl
  obtain ⟨composite, hcompose⟩ := exists_compose hbegun now
  refine ⟨composite, ?_, gathers_of_compose hof hcompose⟩
  rw [compositeOf, happend]
  exact hcompose

/-- A composite may stand in a chain for the authentications it was made of, wherever they stand:
the composites of the two chains have the same identity and the same attributes.  With nothing
before it, it is the session with which a later login begins. -/
theorem composite_stands_for_its_parts {id : String} {before parts after : List Authentication}
    (hne : parts ≠ []) (hone : ∀ a ∈ before ++ parts ++ after, a.principal.id = id)
    (t₁ t₂ t₃ : Time.Timestamp) :
    ∃ inner nested whole : Composite,
      compositeOf parts t₁ = .ok inner ∧
      compositeOf (before ++ inner.toAuthentication :: after) t₂ = .ok nested ∧
      compositeOf (before ++ parts ++ after) t₃ = .ok whole ∧
      nested.principal.id = whole.principal.id ∧
      nested.principal.attributes = whole.principal.attributes ∧
      nested.attributes = whole.attributes := by
  obtain ⟨hfront, hafter⟩ := List.forall_mem_append.1 hone
  obtain ⟨hbefore, hparts⟩ := List.forall_mem_append.1 hfront
  obtain ⟨inner, hinner, hgathers⟩ := exists_compositeOf hne hparts t₁
  have hnested : ∀ a ∈ before ++ inner.toAuthentication :: after, a.principal.id = id :=
    List.forall_mem_append.2 ⟨hbefore, List.forall_mem_cons.2 ⟨hgathers.identity, hafter⟩⟩
  obtain ⟨nested, hcomposed, hnestedgathers⟩ := exists_compositeOf (by simp) hnested t₂
  obtain ⟨whole, hwhole, hwholegathers⟩ := exists_compositeOf (by simp [hne]) hone t₃
  have hsame := hgathers.nested hnestedgathers
  exact ⟨inner, nested, whole, hinner, hcomposed, hwhole,
    hsame.identity.trans hwholegathers.identity.symm,
    hsame.principal.trans hwholegathers.principal.symm,
    hsame.attributes.trans hwholegathers.attributes.symm⟩

/-- An authentication that has one value in both kinds of attributes. -/
def withFactor (v : Json) : Authentication where
  principal := ⟨"alice", Attributes.empty.insert "factor" v⟩
  attributes := Attributes.empty.insert "factor" v

/-- A value that two authentications have, one of them in a list, and a third has again. -/
theorem composite_stands_for_two_factors :
    [withFactor (.str "otp"), withFactor (.arr [.str "duo", .str "otp"])] ≠ [] ∧
    (∀ a ∈ [] ++ [withFactor (.str "otp"), withFactor (.arr [.str "duo", .str "otp"])] ++
      [withFactor (.str "duo")], a.principal.id = "alice") ∧
    ∃ inner nested whole : Composite,
      compositeOf [withFactor (.str "otp"), withFactor (.arr [.str "duo", .str "otp"])] .epoch =
        .ok inner ∧
      compositeOf ([] ++ inner.toAuthentication :: [withFactor (.str "duo")]) .epoch = .ok nested ∧
      compositeOf ([] ++ [withFactor (.str "otp"), withFactor (.arr [.str "duo", .str "otp"])] ++
        [withFactor (.str "duo")]) .epoch = .ok whole ∧
      nested.principal.id = whole.principal.id ∧
      nested.principal.attributes = whole.principal.attributes ∧
      nested.attributes = whole.attributes ∧
      whole.attributes.get? "factor" = some (.arr [.str "otp", .str "duo"]) ∧
      whole.principal.attributes.get? "factor" = some (.str "duo") := by
  have hne : [withFactor (.str "otp"), withFactor (.arr [.str "duo", .str "otp"])] ≠ [] := by simp
  have hone : ∀ a ∈ [] ++ [withFactor (.str "otp"), withFactor (.arr [.str "duo", .str "otp"])] ++
      [withFactor (.str "duo")], a.principal.id = "alice" := by simp [withFactor]
  obtain ⟨inner, nested, whole, hinner, hnested, hwhole, hid, hprincipal, hattributes⟩ :=
    composite_stands_for_its_parts hne hone .epoch .epoch .epoch
  refine ⟨hne, hone, inner, nested, whole, hinner, hnested, hwhole, hid, hprincipal,
    hattributes, ?_⟩
  cases hwhole
  exact ⟨rfl, rfl⟩

end Chain

end StepUp
