import StepUp.Proofs.Settings.Overlay
import StepUp.Settings.Variable

/-!
# The layer of the variables

Each variable gives a value at the end of a path of names.  If no path is the beginning of another,
the layer that all of them make has at the end of every path the value that was given for it, and
apart from these and from the maps on the way to them it has nothing (`Json.MadeOf`).  Only one
normal value is made of some entries, so the order of the variables does not matter
(`Json.MadeOf.unique`, `Settings.ofVariables_perm`).

A value joins a layer without harm where its path is free in it (`Json.Free`): the path leaves the
maps of the layer at some name that is not there.  Then nothing else in the layer changes.
-/

namespace StepUp

namespace Json

open Text (find? put)

variable {v w x : Json} {path q : List String} {entries done : List (List String × Json)}

/-! ## A value at the end of a path -/

theorem normal_atPath (hv : v.Normal) (path : List String) : (atPath path v).Normal := by
  induction path with
  | nil => exact hv
  | cons name path ih => exact ⟨List.pairwise_singleton _ _, ih, trivial⟩

theorem at?_atPath (path r : List String) (v : Json) :
    at? (path ++ r) (atPath path v) = at? r v := by
  induction path with
  | nil => rfl
  | cons name path ih =>
      change (find? name [(name, atPath path v)]).bind (at? (path ++ r)) = _
      simp [find?, ih]

/-- Neither path is the beginning of the other. -/
def Apart (p q : List String) : Prop :=
  ¬ p <+: q ∧ ¬ q <+: p

instance (p q : List String) : Decidable (Apart p q) :=
  inferInstanceAs (Decidable (_ ∧ _))

theorem Apart.symm (h : Apart path q) : Apart q path :=
  And.symm h

theorem apart_cons {name : String} : Apart (name :: path) (name :: q) ↔ Apart path q := by
  simp [Apart, List.cons_prefix_cons]

theorem at?_atPath_of_apart (h : Apart path q) : at? q (atPath path v) = none := by
  induction path generalizing q with
  | nil => exact absurd List.nil_prefix h.1
  | cons name path ih =>
      cases q with
      | nil => exact absurd List.nil_prefix h.2
      | cons other q =>
          change (find? other [(name, atPath path v)]).bind (at? q) = none
          by_cases hname : other = name
          · subst hname
            simp [find?, ih (apart_cons.1 h)]
          · simp [find?, hname]

/-! ## Free paths -/

/-- Nothing is in the way of a path: it leaves the maps of a value at some name. -/
def Free : (path : List String) → Json → Prop
  | [], _ => False
  | name :: path, .obj members => ∀ v, find? name members = some v → Free path v
  | _ :: _, _ => False

theorem exists_of_free {name : String} (h : Free (name :: path) w) :
    ∃ members, w = .obj members ∧ ∀ x, find? name members = some x → Free path x := by
  cases w with
  | obj members => exact ⟨members, rfl, h⟩
  | _ => exact h.elim

theorem free_of_maps (h : ∀ p x, p <+: path → at? p w = some x → p ≠ path ∧ x.IsMap) :
    Free path w := by
  induction path generalizing w with
  | nil => exact absurd rfl (h [] w List.nil_prefix rfl).1
  | cons name path ih =>
      obtain ⟨members, rfl⟩ := (h [] w List.nil_prefix rfl).2
      intro v hv
      refine ih fun p x hp hx => ?_
      have hcons := h (name :: p) x (List.cons_prefix_cons.2 ⟨rfl, hp⟩) (by simp [at?, hv, hx])
      exact ⟨fun heq => hcons.1 (heq ▸ rfl), hcons.2⟩

theorem overlay_atPath (name : String) (path : List String) (v : Json)
    (members : List (String × Json)) :
    overlay (.obj members) (atPath (name :: path) v) =
      .obj (put name (match find? name members with
        | some x => overlay x (atPath path v)
        | none => atPath path v) members) := by
  rw [show atPath (name :: path) v = .obj [(name, atPath path v)] from rfl, overlay_obj]
  cases h : find? name members <;> simp [overlayMembers, h]

/-- A value that is laid over a free path stands at its end. -/
theorem at?_overlay_of_free (h : Free path w) (hw : w.Normal) (r : List String) :
    at? (path ++ r) (overlay w (atPath path v)) = at? r v := by
  induction path generalizing w with
  | nil => exact h.elim
  | cons name path ih =>
      obtain ⟨members, rfl, hfree⟩ := exists_of_free h
      rw [overlay_atPath, List.cons_append]
      simp only [at?, Text.find?_put _ _ _ hw.1, if_true, Option.bind_some]
      cases hx : find? name members with
      | none => exact at?_atPath path r v
      | some x => exact ih (hfree x hx) (normal_of_find? hw hx)

/-- A value that is laid over a free path changes nothing elsewhere. -/
theorem at?_overlay_of_apart (h : Free path w) (hw : w.Normal) (hq : Apart path q) :
    at? q (overlay w (atPath path v)) = at? q w := by
  induction path generalizing w q with
  | nil => exact h.elim
  | cons name path ih =>
      obtain ⟨members, rfl, hfree⟩ := exists_of_free h
      cases q with
      | nil => exact absurd List.nil_prefix hq.2
      | cons other q =>
          rw [overlay_atPath]
          simp only [at?, Text.find?_put _ _ _ hw.1]
          by_cases hname : other = name
          · subst hname
            cases hx : find? other members with
            | none => simp [at?_atPath_of_apart (apart_cons.1 hq)]
            | some x =>
                simpa using ih (hfree x hx) (normal_of_find? hw hx) (apart_cons.1 hq)
          · simp [hname]

/-! ## Values made of entries -/

/-- A map that has a value at the end of each of some paths, and else nothing but the maps on the
way to them. -/
structure MadeOf (entries : List (List String × Json)) (w : Json) : Prop where
  normal : w.Normal
  isMap : w.IsMap
  value : ∀ e ∈ entries, at? e.1 w = some e.2
  nothingElse : ∀ p x, at? p w = some x → p = [] ∨ ∃ e ∈ entries, p <+: e.1 ∨ e.1 <+: p

theorem madeOf_nil : MadeOf [] (.obj []) where
  normal := ⟨List.Pairwise.nil, trivial⟩
  isMap := isMap_obj _
  value := by simp
  nothingElse := by
    intro p x hx
    cases p with
    | nil => exact .inl rfl
    | cons name p => simp [at?, find?] at hx

/-- Before the end of its path an entry has maps. -/
theorem MadeOf.isMap_before (h : MadeOf entries w) {e : List String × Json} (he : e ∈ entries)
    (hq : q <+: e.1) (hne : q ≠ e.1) : ∃ x, at? q w = some x ∧ x.IsMap := by
  obtain ⟨r, hr⟩ := hq
  refine isMap_of_at? (q := r) (hr ▸ h.value e he) ?_
  rintro rfl
  exact hne (by simpa using hr)

/-- Nothing but the entries decides what is made of them. -/
theorem MadeOf.unique (h : MadeOf entries v) (h' : MadeOf entries w) : v = w := by
  have hone : ∀ {v w}, MadeOf entries v → MadeOf entries w → ∀ p x, at? p v = some x →
      AgreeAt v w p := by
    intro v w h h' p x hx
    rcases h.nothingElse p x hx with rfl | ⟨e, he, hbefore | ⟨r, rfl⟩⟩
    · exact .inr ⟨v, w, rfl, rfl, h.isMap, h'.isMap⟩
    · by_cases hend : p = e.1
      · exact .inl (by rw [hend, h.value e he, h'.value e he])
      · obtain ⟨x, hx, hxmap⟩ := h.isMap_before he hbefore hend
        obtain ⟨y, hy, hymap⟩ := h'.isMap_before he hbefore hend
        exact .inr ⟨x, y, hx, hy, hxmap, hymap⟩
    · exact .inl (by rw [at?_append, at?_append, h.value e he, h'.value e he])
  refine eq_of_agreeAt h.normal h'.normal fun p => ?_
  cases hx : at? p v with
  | some x => exact hone h h' p x hx
  | none =>
      cases hy : at? p w with
      | none => exact .inl (hx.trans hy.symm)
      | some y =>
          rcases hone h' h p y hy with heq | ⟨_, _, -, hx', -⟩
          · exact .inl heq.symm
          · rw [hx] at hx'
            cases hx'

/-- The order of the entries does not matter. -/
theorem MadeOf.congr {entries' : List (List String × Json)} (h : MadeOf entries w)
    (hsame : ∀ e, e ∈ entries ↔ e ∈ entries') : MadeOf entries' w where
  normal := h.normal
  isMap := h.isMap
  value := fun e he => h.value e ((hsame e).2 he)
  nothingElse := fun p x hx => (h.nothingElse p x hx).imp_right fun ⟨e, he, hp⟩ =>
    ⟨e, (hsame e).1 he, hp⟩

/-- The path of a further entry is free. -/
theorem MadeOf.free (h : MadeOf entries w) (hpath : path ≠ [])
    (hapart : ∀ e ∈ entries, Apart e.1 path) : Free path w := by
  refine free_of_maps fun p x hp hx => ?_
  rcases h.nothingElse p x hx with rfl | ⟨e, he, hbefore | hafter⟩
  · cases hx
    exact ⟨hpath.symm, h.isMap⟩
  · have hend : p ≠ e.1 := fun heq => (hapart e he).1 (heq ▸ hp)
    obtain ⟨y, hy, hmap⟩ := h.isMap_before he hbefore hend
    rw [hx] at hy
    cases hy
    exact ⟨fun heq => (hapart e he).2 (heq ▸ hbefore), hmap⟩
  · exact absurd (hafter.trans hp) (hapart e he).1

/-- An entry more is laid over what was made. -/
theorem MadeOf.add (h : MadeOf entries w) (hv : v.Normal) (hpath : path ≠ [])
    (hapart : ∀ e ∈ entries, Apart e.1 path) :
    MadeOf (entries ++ [(path, v)]) (overlay w (atPath path v)) := by
  have hfree := h.free hpath hapart
  refine ⟨normal_overlay h.normal (normal_atPath hv path), ?_, ?_, ?_⟩
  · obtain ⟨members, rfl⟩ := h.isMap
    obtain ⟨name, path, rfl⟩ := List.exists_cons_of_ne_nil hpath
    exact overlay_atPath name path v members ▸ isMap_obj _
  · intro e he
    rcases List.mem_append.1 he with he | he
    · rw [at?_overlay_of_apart hfree h.normal (hapart e he).symm, h.value e he]
    · cases List.mem_singleton.1 he
      simpa [at?] using at?_overlay_of_free (v := v) hfree h.normal []
  · intro p x hx
    by_cases hrelated : p <+: path ∨ path <+: p
    · exact .inr ⟨(path, v), by simp, hrelated⟩
    · obtain ⟨hbefore, hafter⟩ := not_or.1 hrelated
      rw [at?_overlay_of_apart hfree h.normal ⟨hafter, hbefore⟩] at hx
      rcases h.nothingElse p x hx with hnil | ⟨e, he, hp⟩
      · exact .inl hnil
      · exact .inr ⟨e, List.mem_append_left _ he, hp⟩

/-- Entries of which none is in the way of another are laid over one another. -/
theorem MadeOf.addAll (h : MadeOf done w)
    (hapart : (done ++ entries).Pairwise fun e f => Apart e.1 f.1)
    (hentries : ∀ e ∈ entries, e.1 ≠ [] ∧ e.2.Normal) :
    MadeOf (done ++ entries)
      (entries.foldl (fun layer e => overlay layer (atPath e.1 e.2)) w) := by
  induction entries generalizing done w with
  | nil => simpa using h
  | cons e entries ih =>
      obtain ⟨hfirst, hrest⟩ := List.forall_mem_cons.1 hentries
      have hbefore : ∀ f ∈ done, Apart f.1 e.1 := fun f hf =>
        (List.pairwise_append.1 hapart).2.2 f hf e List.mem_cons_self
      rw [List.append_cons] at hapart ⊢
      exact ih (h.add hfirst.2 hfirst.1 hbefore) hapart hrest

end Json

namespace Settings

open Json (MadeOf Apart atPath)

variable {environment : List (String × String)}

/-! ## What the variables give -/

/-- What the variables of an environment give: for each that gives a setting, the path to it and the
value. -/
def given (environment : List (String × String)) : List (List String × Json) :=
  environment.filterMap fun e => (variablePath? e.1).map fun path => (path, variableValue e.2)

/-- No path is given twice, and none is the beginning of another. -/
def Independent (entries : List (List String × Json)) : Prop :=
  entries.Pairwise fun e f => Apart e.1 f.1

instance (entries : List (List String × Json)) : Decidable (Independent entries) :=
  inferInstanceAs (Decidable (entries.Pairwise _))

theorem variablePath?_ne_nil {name : String} {path : List String}
    (h : variablePath? name = some path) : path ≠ [] := by
  simp only [variablePath?, Option.ite_none_right_eq_some, Option.ite_none_left_eq_some,
    Option.some.injEq] at h
  obtain ⟨-, -, rfl⟩ := h
  exact fun hnil => List.splitOnP_ne_nil _ _ (List.map_eq_nil_iff.1 hnil)

theorem normal_of_variableValue {text : String} {v : Json} (h : variableValue text = v) :
    v.Normal := by
  unfold variableValue at h
  dsimp only at h
  split at h
  next w _ => exact h ▸ Json.normal_normalize w
  next =>
    cases h
    trivial

theorem ne_nil_and_normal_of_mem_given {path : List String} {v : Json}
    (h : (path, v) ∈ given environment) : path ≠ [] ∧ v.Normal := by
  simp only [given, List.mem_filterMap, Option.map_eq_some_iff, Prod.mk.injEq] at h
  obtain ⟨e, -, path, hpath, rfl, hvalue⟩ := h
  exact ⟨variablePath?_ne_nil hpath, normal_of_variableValue hvalue⟩

theorem ofVariables_eq_foldl (environment : List (String × String)) :
    ofVariables environment =
      (given environment).foldl (fun layer e => layer.overlay (atPath e.1 e.2)) (.obj []) := by
  rw [given, List.foldl_filterMap, ofVariables]
  refine congrArg (environment.foldl · (Json.obj [])) (funext fun layer => funext fun e => ?_)
  cases hpath : variablePath? e.1 with
  | none => simp only [hpath, Option.map_none]
  | some path => simp only [hpath, Option.map_some]

/-- Variables that are not in one another's way make the one layer that is made of what they
give. -/
theorem madeOf_ofVariables (h : Independent (given environment)) :
    MadeOf (given environment) (ofVariables environment) := by
  rw [ofVariables_eq_foldl]
  exact Json.madeOf_nil.addAll h fun e he => ne_nil_and_normal_of_mem_given he

/-- The layer does not depend on the order of the variables. -/
theorem ofVariables_perm {environment' : List (String × String)}
    (h : Independent (given environment)) (hperm : environment.Perm environment') :
    ofVariables environment' = ofVariables environment := by
  have hgiven : (given environment).Perm (given environment') := hperm.filterMap _
  have h' : Independent (given environment') := hgiven.pairwise h fun hapart => hapart.symm
  exact (madeOf_ofVariables h').unique ((madeOf_ofVariables h).congr fun e => hgiven.mem_iff)

end Settings

end StepUp
