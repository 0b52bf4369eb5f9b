import StepUp.Settings.Layer

/-!
# Values laid over one another

What it means to lay a value over another is said here without the function that does it: two maps
are joined key by key, at every depth, and in place of anything else the upper value stands whole
(`Json.Overlaid`).  Of normal values there is exactly one such join, and `Json.overlay` finds it
(`Json.overlaid_iff`).

A value can be asked for what stands at the end of a path of names (`Json.at?`).  Where the upper
value has something else than a map at the end of a path, the join has just that
(`Json.Overlaid.at?_of_not_isMap`).
-/

namespace StepUp.Json

open Text (Ascending find?)

variable {lower upper merged v w : Json} {l u m : List (String × Json)} {path : List String}

/-! ## Maps -/

/-- The value is a map. -/
def IsMap (v : Json) : Prop :=
  ∃ members, v = .obj members

theorem isMap_obj (members : List (String × Json)) : (obj members).IsMap :=
  ⟨members, rfl⟩

/-- `merged` is `upper` laid over `lower`.  A key of both maps has what one value laid over the
other gives, and any other key what it has in its map. -/
inductive Overlaid : (lower upper merged : Json) → Prop
  | whole {lower upper : Json} : ¬ (lower.IsMap ∧ upper.IsMap) → Overlaid lower upper upper
  | joined {l u m : List (String × Json)} :
      (∀ name, find? name u = none → find? name m = find? name l) →
      (∀ name, find? name l = none → find? name m = find? name u) →
      (∀ name, find? name l ≠ none → find? name u ≠ none → find? name m ≠ none) →
      (∀ name v w x, find? name l = some v → find? name u = some w → find? name m = some x →
        Overlaid v w x) →
      Overlaid (.obj l) (.obj u) (.obj m)

/-! ## Members -/

theorem sizeOf_lt_of_find? {name : String} (h : find? name l = some v) :
    sizeOf v < sizeOf (obj l) := by
  have hmem := List.sizeOf_lt_of_mem (Text.mem_of_find? h)
  simp only [Prod.mk.sizeOf_spec, obj.sizeOf_spec] at *
  omega

theorem normal_of_find? (hl : (obj l).Normal) {name : String} (h : find? name l = some v) :
    v.Normal :=
  normalMembers_iff.1 hl.2 _ (Text.mem_of_find? h)

/-! ## The join of two values -/

theorem overlay_of_not_maps (h : ¬ (lower.IsMap ∧ upper.IsMap)) : overlay lower upper = upper := by
  unfold overlay
  split
  next => exact absurd ⟨isMap_obj _, isMap_obj _⟩ h
  next => rfl

theorem overlay_obj (l u : List (String × Json)) :
    overlay (.obj l) (.obj u) = .obj (overlayMembers l u) := by
  rw [overlay]

/-- A key that the upper map does not have keeps its value. -/
theorem find?_overlayMembers_of_eq_none (hl : Ascending l) (hu : Ascending u) {name : String}
    (h : find? name u = none) : find? name (overlayMembers l u) = find? name l := by
  rw [find?_overlay hl hu, h]
  cases find? name l <;> rfl

/-- A key of the lower map is not lost. -/
theorem find?_overlayMembers_ne_none (hl : Ascending l) (hu : Ascending u) {name : String}
    (h : find? name l ≠ none) : find? name (overlayMembers l u) ≠ none := by
  obtain ⟨v, hv⟩ := Option.ne_none_iff_exists'.1 h
  rw [find?_overlay hl hu, hv]
  cases find? name u <;> simp

/-- Where the value of a key in the join comes from. -/
theorem cases_of_find?_overlayMembers (hl : Ascending l) (hu : Ascending u) {name : String}
    (h : find? name (overlayMembers l u) = some v) :
    find? name l = some v ∨ find? name u = some v ∨
      ∃ x y, find? name l = some x ∧ find? name u = some y ∧ v = overlay x y := by
  rw [find?_overlay hl hu] at h
  cases hx : find? name l with
  | none => simp_all
  | some x =>
      cases hy : find? name u with
      | none => simp_all
      | some y =>
          simp only [hx, hy, Option.some.injEq] at h
          exact .inr (.inr ⟨x, y, rfl, rfl, h.symm⟩)

/-- Of normal values the join is found, and it is normal. -/
theorem overlay_joins (hlower : lower.Normal) (hupper : upper.Normal) :
    Overlaid lower upper (overlay lower upper) ∧ (overlay lower upper).Normal := by
  induction hn : sizeOf upper using Nat.strongRecOn generalizing lower upper with
  | ind n ih =>
      by_cases hmaps : lower.IsMap ∧ upper.IsMap
      · obtain ⟨⟨l, rfl⟩, ⟨u, rfl⟩⟩ := hmaps
        have hfind := find?_overlay hlower.1 hupper.1
        -- values of one key are laid over one another, and the upper one is smaller than its map
        have hinner : ∀ {name x y}, find? name l = some x → find? name u = some y →
            Overlaid x y (overlay x y) ∧ (overlay x y).Normal := by
          intro name x y hx hy
          have hsmaller := hn ▸ sizeOf_lt_of_find? hy
          exact ih _ hsmaller (normal_of_find? hlower hx) (normal_of_find? hupper hy) rfl
        rw [overlay_obj]
        constructor
        · refine .joined (fun name => find?_overlayMembers_of_eq_none hlower.1 hupper.1)
            (fun name hnone => ?_) (fun name hx hy => ?_) (fun name x y z hx hy hz => ?_)
          · cases hy : find? name u <;> simp [hfind, hy, hnone]
          · obtain ⟨x, hx⟩ := Option.ne_none_iff_exists'.1 hx
            obtain ⟨y, hy⟩ := Option.ne_none_iff_exists'.1 hy
            simp [hfind, hx, hy]
          · rw [hfind, hx, hy] at hz
            cases hz
            exact (hinner hx hy).1
        · refine ⟨ascending_overlayMembers hlower.1 u, normalMembers_iff.2 fun e he => ?_⟩
          have hfound := (ascending_overlayMembers hlower.1 u).find?_of_mem he
          rcases cases_of_find?_overlayMembers hlower.1 hupper.1 hfound with
            hl | hu | ⟨x, y, hx, hy, heq⟩
          · exact normal_of_find? hlower hl
          · exact normal_of_find? hupper hu
          · exact heq ▸ (hinner hx hy).2
      · rw [overlay_of_not_maps hmaps]
        exact ⟨.whole hmaps, hupper⟩

theorem normal_overlay (hlower : lower.Normal) (hupper : upper.Normal) :
    (overlay lower upper).Normal :=
  (overlay_joins hlower hupper).2

/-- There is only one normal join. -/
theorem Overlaid.unique (h : Overlaid lower upper v) (h' : Overlaid lower upper w) (hv : v.Normal)
    (hw : w.Normal) : v = w := by
  induction h generalizing w with
  | whole hmaps =>
      cases h' with
      | whole => rfl
      | joined => exact absurd ⟨isMap_obj _, isMap_obj _⟩ hmaps
  | @joined l u m hlower hupper hboth hinner ih =>
      cases h' with
      | whole hmaps => exact absurd ⟨isMap_obj _, isMap_obj _⟩ hmaps
      | @joined _ _ m' hlower' hupper' hboth' hinner' =>
          refine congrArg obj (hv.1.ext hw.1 fun name => ?_)
          cases hx : find? name l with
          | none => rw [hupper name hx, hupper' name hx]
          | some x =>
              cases hy : find? name u with
              | none => rw [hlower name hy, hlower' name hy]
              | some y =>
                  have hx' : find? name l ≠ none := by simp [hx]
                  have hy' : find? name u ≠ none := by simp [hy]
                  obtain ⟨z, hz⟩ := Option.ne_none_iff_exists'.1 (hboth name hx' hy')
                  obtain ⟨z', hz'⟩ := Option.ne_none_iff_exists'.1 (hboth' name hx' hy')
                  rw [hz, hz', ih name x y z hx hy hz (hinner' name x y z' hx hy hz')
                    (normal_of_find? hv hz) (normal_of_find? hw hz')]

/-- The one normal join is what is found. -/
theorem overlaid_iff (hlower : lower.Normal) (hupper : upper.Normal) (hmerged : merged.Normal) :
    Overlaid lower upper merged ↔ merged = overlay lower upper := by
  obtain ⟨hjoins, hnormal⟩ := overlay_joins hlower hupper
  exact ⟨fun h => h.unique hjoins hmerged hnormal, fun h => h ▸ hjoins⟩

/-! ## Paths -/

/-- The value at the end of a path of names, through maps. -/
def at? : (path : List String) → Json → Option Json
  | [], v => some v
  | name :: path, .obj members => (find? name members).bind (at? path)
  | _ :: _, _ => none

theorem at?_cons_eq_some_iff {name : String} :
    at? (name :: path) v = some w ↔
      ∃ members x, v = .obj members ∧ find? name members = some x ∧ at? path x = some w := by
  cases v with
  | obj members => simp [at?, Option.bind_eq_some_iff]
  | _ => simp [at?]

theorem at?_append (p q : List String) (v : Json) : at? (p ++ q) v = (at? p v).bind (at? q) := by
  induction p generalizing v with
  | nil => rfl
  | cons name p ih =>
      cases v with
      | obj members => cases h : find? name members <;> simp [at?, h, ih]
      | _ => rfl

/-- On the way to the end of a path there are maps. -/
theorem isMap_of_at? {p q : List String} (h : at? (p ++ q) v = some w) (hq : q ≠ []) :
    ∃ x, at? p v = some x ∧ x.IsMap := by
  rw [at?_append, Option.bind_eq_some_iff] at h
  obtain ⟨x, hx, hw⟩ := h
  cases q with
  | nil => exact absurd rfl hq
  | cons name q =>
      obtain ⟨members, -, rfl, -⟩ := at?_cons_eq_some_iff.1 hw
      exact ⟨_, hx, isMap_obj _⟩

/-- Two values have the same at the end of a path, or both have a map there. -/
def AgreeAt (v w : Json) (path : List String) : Prop :=
  at? path v = at? path w ∨ ∃ x y, at? path v = some x ∧ at? path w = some y ∧ x.IsMap ∧ y.IsMap

/-- Normal values that agree at the end of every path are equal. -/
theorem eq_of_agreeAt (hv : v.Normal) (hw : w.Normal) (h : ∀ path, AgreeAt v w path) : v = w := by
  induction hn : sizeOf v using Nat.strongRecOn generalizing v w with
  | ind n ih =>
      rcases h [] with heq | ⟨_, _, hx, hy, ⟨l, rfl⟩, ⟨m, rfl⟩⟩
      · exact Option.some.inj heq
      · cases hx
        cases hy
        refine congrArg obj (hv.1.ext hw.1 fun name => ?_)
        have hname := h [name]
        cases hl : find? name l with
        | none =>
            cases hm : find? name m with
            | none => rfl
            | some y => simp [AgreeAt, at?, hl, hm] at hname
        | some x =>
            cases hm : find? name m with
            | none => simp [AgreeAt, at?, hl, hm] at hname
            | some y =>
                have hsmaller := hn ▸ sizeOf_lt_of_find? hl
                rw [ih _ hsmaller (normal_of_find? hv hl) (normal_of_find? hw hm)
                  (fun path => ?_) rfl]
                simpa [AgreeAt, at?, hl, hm] using h (name :: path)

/-- What the upper value has at the end of a path, if it is not a map, the join has there. -/
theorem Overlaid.at?_of_not_isMap (h : Overlaid lower upper merged) (hv : ¬ v.IsMap)
    (hat : at? path upper = some v) : at? path merged = some v := by
  induction path generalizing lower upper merged with
  | nil =>
      cases hat
      cases h with
      | whole => rfl
      | joined => exact absurd (isMap_obj _) hv
  | cons name path ih =>
      obtain ⟨u, y, rfl, hy, hat⟩ := at?_cons_eq_some_iff.1 hat
      cases h with
      | whole => simp [at?, hy, hat]
      | @joined l _ m hlower hupper hboth hinner =>
          cases hx : find? name l with
          | none => simp [at?, hupper name hx, hy, hat]
          | some x =>
              obtain ⟨z, hz⟩ := Option.ne_none_iff_exists'.1
                (hboth name (by simp [hx]) (by simp [hy]))
              simp [at?, hz, ih (hinner name x y z hx hy hz) hat]

end StepUp.Json
