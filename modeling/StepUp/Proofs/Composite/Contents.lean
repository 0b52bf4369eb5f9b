import Mathlib.Data.List.Induction
import StepUp.Proofs.Composite.Nesting

/-!
# What a composite holds

The composite of a chain is described here all at once, by the values that a name has in the chain
and without the merges that compute it (`Chain.composite_contents`):

* of the principals' attributes the last value of a name stays;
* of the authentications' attributes a value that one authentication has stays as it is, and of the
  values that several have the composite has a list of their elements, in the order of the chain,
  each where it or an equal one comes first (`gatheredValue`).

Merging goes from one authentication to the next, and what has been merged so far changes its form
on the way, from a value to the list of the elements of several.  It agrees with the description at
every step, since the elements of that list are the first occurrences again.
-/

namespace StepUp

/-! ## First occurrences -/

/-- The values of a list to which none before them is equal, in their order. -/
def firstOccurrences (l : List Json) : List Json :=
  (l.zipIdx.filter fun e => !(l.take e.2).any fun u => u.same e.1).map (·.1)

/-- A value at the end of a list is one more first occurrence, unless an equal one stands before
it. -/
theorem firstOccurrences_concat (l : List Json) (v : Json) :
    firstOccurrences (l ++ [v]) =
      if l.any fun u => u.same v then firstOccurrences l else firstOccurrences l ++ [v] := by
  -- of the values before the last one the same stand before it as without it
  have hbefore : ∀ e ∈ l.zipIdx,
      (!((l ++ [v]).take e.2).any fun u => u.same e.1) = !(l.take e.2).any fun u => u.same e.1 := by
    intro e he
    have hle : e.2 ≤ l.length := Nat.le_of_lt (List.snd_lt_of_mem_zipIdx he)
    rw [List.take_append_of_le_length hle]
  have hlast : (l ++ [v]).take l.length = l := by
    rw [List.take_append_of_le_length (Nat.le_refl _), List.take_length]
  unfold firstOccurrences
  rw [List.zipIdx_append, List.filter_append, List.filter_congr hbefore, List.map_append]
  cases hthere : l.any fun u => u.same v with
  | true => simp [hlast, hthere]
  | false => simp [hlast, hthere]

namespace Json

/-- An equal value is among the distinct values of a list exactly when one is in the list. -/
theorem any_distinctValues (l : List Json) (v : Json) :
    ((distinctValues [] l).any fun u => u.same v) = l.any fun u => u.same v := by
  rw [Bool.eq_iff_iff, List.any_eq_true, List.any_eq_true]
  constructor
  · rintro ⟨d, hd, hsame⟩
    rcases mem_of_mem_distinctValues hd with hnil | hmem
    · cases hnil
    · exact ⟨d, hmem, hsame⟩
  · rintro ⟨u, hu, hsame⟩
    obtain ⟨d, hd, hdu⟩ := exists_same_distinctValues [] hu
    exact ⟨d, hd, same_trans hdu hsame⟩

/-- The distinct values of a list are its first occurrences. -/
theorem distinctValues_eq_firstOccurrences (l : List Json) :
    distinctValues [] l = firstOccurrences l := by
  induction l using List.reverseRecOn with
  | nil => rfl
  | append_singleton l v ih =>
      rw [distinctValues_append, firstOccurrences_concat, ← any_distinctValues, ← ih]
      rfl

end Json

/-! ## The values of a name -/

/-- What a composite has of the values of one name: a single value as it is, and of several the
elements, each at its first occurrence. -/
def gatheredValue : List Json → Option Json
  | [] => none
  | [v] => some v
  | values => some (.arr (firstOccurrences (values.flatMap Json.elements)))

/-- Of several values the composite has a list. -/
theorem gatheredValue_of_ne_nil {values : List Json} (hne : values ≠ []) (v : Json) :
    gatheredValue (values ++ [v]) =
      some (.arr (firstOccurrences ((values ++ [v]).flatMap Json.elements))) := by
  match values, hne with
  | [_], _ => rfl
  | _ :: _ :: _, _ => rfl

/-- A further value is merged into what the composite has of those before it. -/
theorem gatheredValue_concat (values : List Json) (v : Json) :
    gatheredValue (values ++ [v]) = mergedEntry (gatheredValue values) (some v) := by
  match values with
  | [] => rfl
  | [u] =>
      rw [gatheredValue_of_ne_nil (by simp), ← Json.distinctValues_eq_firstOccurrences]
      simp [gatheredValue, mergedEntry, mergedValue]
  | u :: w :: rest =>
      -- what was merged so far is a list of distinct elements, to which those of `v` are added
      have hmerged : ∀ elements : List Json,
          mergedValue (.arr (firstOccurrences elements)) v =
            .arr (firstOccurrences (elements ++ v.elements)) := by
        intro elements
        rw [← Json.distinctValues_eq_firstOccurrences, ← Json.distinctValues_eq_firstOccurrences,
          ← Json.distinctValues_append_left]
        rfl
      rw [gatheredValue_of_ne_nil (by simp), List.flatMap_append, List.flatMap_singleton, ← hmerged]
      rfl

namespace Attributes

/-- Of attributes laid over each other the last value of a name stays. -/
theorem get?_foldl_overlay (l : List Attributes) (name : String) :
    (l.foldl overlay empty).get? name = (l.filterMap (·.get? name)).getLast? := by
  induction l using List.reverseRecOn with
  | nil => rfl
  | append_singleton l a ih =>
      rw [List.foldl_append, List.filterMap_append, List.getLast?_append, ← ih]
      refine (get?_overlay _ a name).trans ?_
      cases h : a.get? name <;> simp [h]

/-- Merged attributes have of each name what is gathered of its values. -/
theorem get?_foldl_merge (l : List Attributes) (name : String) :
    (l.foldl merge empty).get? name = gatheredValue (l.filterMap (·.get? name)) := by
  induction l using List.reverseRecOn with
  | nil => rfl
  | append_singleton l a ih =>
      rw [List.foldl_append, List.filterMap_append]
      refine (get?_merge _ a name).trans ?_
      rw [ih]
      cases h : a.get? name with
      | none =>
          simp only [List.filterMap_cons, h, List.filterMap_nil, List.append_nil]
          cases gatheredValue (l.filterMap (·.get? name)) <;> rfl
      | some v =>
          simp only [List.filterMap_cons, h, List.filterMap_nil]
          exact (gatheredValue_concat _ v).symm

end Attributes

/-! ## Composites -/

/-- A composite holds what the authentications of a list give together. -/
structure Composite.Holds (composite : Composite) (l : List Authentication) : Prop where
  identity : l.head?.map (·.principal.id) = some composite.principal.id
  chained : composite.chained = l
  /-- Of the principals' attributes the last value of a name. -/
  principal : ∀ name, composite.principal.attributes.get? name =
    (l.filterMap fun a => a.principal.attributes.get? name).getLast?
  /-- Of the authentications' attributes what is gathered of the values of a name. -/
  attributes : ∀ name, composite.attributes.get? name =
    gatheredValue (l.filterMap fun a => a.attributes.get? name)

namespace Chain

/-- A chain that was begun has a composite: it is of the first principal, it lists what was chained,
and it holds the values of all that was chained, name by name.  An empty chain has none. -/
theorem composite_contents (c : Chain) (now : Time.Timestamp) :
    (c.isEmpty = true → c.compose now = .error .emptyChain) ∧
    (c.isEmpty = false →
      ∃ composite, c.compose now = .ok composite ∧ composite.Holds c.authentications) := by
  unfold isEmpty compose
  cases c.authentications with
  | nil => exact ⟨fun _ => rfl, fun hbegun => absurd hbegun (by simp)⟩
  | cons first rest =>
      refine ⟨fun hempty => absurd hempty (by simp), fun _ => ⟨_, rfl, ?_⟩⟩
      refine { identity := rfl, chained := rfl, principal := ?_, attributes := ?_ }
      · intro name
        have hlast := Attributes.get?_foldl_overlay
          ((first :: rest).map (·.principal.attributes)) name
        rw [List.foldl_map, List.filterMap_map] at hlast
        exact hlast
      · intro name
        have hgathered := Attributes.get?_foldl_merge ((first :: rest).map (·.attributes)) name
        rw [List.foldl_map, List.filterMap_map] at hgathered
        exact hgathered

/-- A chain whose authentications have a zero, a list with the other zero, and an object. -/
def threeFactors : Chain where
  authentications := [.float (.ofMagnitude false 0),
    .arr [.float (.ofMagnitude true 0), .str "otp", .null],
    .obj [("first", .str "otp"), ("second", .int 0)]].map withFactor

/-- The two zeros are equal as numbers and the whole number is not, so of the zeros the first stays,
and of the principals' attributes the last value. -/
theorem composite_contents_of_three_factors :
    threeFactors.isEmpty = false ∧ ∃ composite, threeFactors.compose .epoch = .ok composite ∧
      composite.Holds threeFactors.authentications ∧
      composite.attributes.get? "factor" =
        some (.arr [.float (.ofMagnitude false 0), .str "otp", .null, .int 0]) ∧
      composite.principal.attributes.get? "factor" =
        some (.obj [("first", .str "otp"), ("second", .int 0)]) := by
  obtain ⟨composite, hcompose, hholds⟩ := (composite_contents threeFactors .epoch).2 rfl
  exact ⟨rfl, composite, hcompose, hholds, hholds.attributes "factor", hholds.principal "factor"⟩

end Chain

end StepUp
