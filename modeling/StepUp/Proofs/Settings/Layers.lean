import StepUp.Proofs.Settings.Reading
import StepUp.Proofs.Settings.VariableLayer

/-!
# The layers of settings

Settings are loaded from the written form of the defaults, over it the map of a file, and over both
what the variables make.  This file says what these layers joined are without the functions that
join them (`Settings.Layered`), that there is exactly one such value, and that it is what is read
(`Settings.layered_iff`).

From this follows on what a setting depends.  Two runs are compared: each setting is read from what
its name has in the joined layers (`Settings.value_congr`), and what it has there comes from below
where no variable names it, and from the variable where one gives it as a whole
(`Settings.Joined`).
-/

namespace StepUp.Settings

open Json (IsMap MadeOf Overlaid at? isMap_obj overlayMembers)
open Text (Ascending find?)

variable {defaults defaults' s s' : Settings} {file file' : Option String}
  {environment environment' : List (String × String)} {members : List (String × Json)}
  {layer merged v : Json}

/-! ## Layers are normal maps -/

theorem normal_ofText? (o : Option String) : (Json.ofText? o).Normal := by
  cases o <;> trivial

theorem normalItems_map {α : Type} {write : α → Json} (h : ∀ a, (write a).Normal) (as : List α) :
    Json.NormalItems (as.map write) :=
  Json.normalItems_iff.2 (List.forall_mem_map.2 fun a _ => h a)

theorem normal_text (s : String) : (Json.str s).Normal :=
  trivial

theorem normal_resolver (k : ResolverKind) : k.toJson.Normal :=
  trivial

/-- An object whose names are in order and whose values are normal is normal. -/
theorem normal_obj (names : List String) (hnames : members.map (·.1) = names)
    (hascending : names.Pairwise (· < ·)) (hvalues : ∀ e ∈ members, e.2.Normal) :
    (Json.obj members).Normal :=
  ⟨List.pairwise_map.1 (hnames ▸ hascending), Json.normalMembers_iff.2 hvalues⟩

theorem normal_method (m : Method) : m.toJson.Normal :=
  normal_obj ["name", "rank"] rfl (by decide) (by simp [Json.Normal])

theorem normal_rule (rule : RoleRule) : rule.toJson.Normal :=
  normal_obj ["attribute_name", "attribute_pattern"] rfl (by decide) (by simp [normal_ofText?])

theorem normal_service (service : RegisteredService) : service.toJson.Normal := by
  refine normal_obj ["authn_method", "id", "mfa_role"] rfl (by decide) ?_
  cases service.roleRule with
  | none => simp [normal_ofText?, Json.Normal]
  | some rule => simp [normal_ofText?, normal_text, normal_rule]

theorem normal_static (m : StaticMapping) : m.toJson.Normal :=
  normal_obj ["method", "values"] rfl (by decide)
    (by simp [Json.Normal, normalItems_map normal_text])

theorem normal_regex (m : RegexMapping) : m.toJson.Normal :=
  normal_obj ["method", "pattern"] rfl (by decide) (by simp [Json.Normal])

theorem normal_translator (t : TranslatorSettings) : t.toJson.Normal := by
  cases t with
  | passthrough => exact normal_obj ["kind"] rfl (by decide) (by simp [Json.Normal])
  | static mappings ignoreIfNoMatch =>
      exact normal_obj ["ignore_if_no_match", "kind", "mappings"] rfl (by decide)
        (by simp [Json.Normal, normalItems_map normal_static])
  | regex mappings ignoreIfNoMatch defaultMethod =>
      exact normal_obj ["default_method", "ignore_if_no_match", "kind", "mappings"] rfl (by decide)
        (by simp [Json.Normal, normal_ofText?, normalItems_map normal_regex])

theorem normal_toJson (s : Settings) : s.toJson.Normal := by
  refine normal_obj ["default_method", "methods", "methods_file", "principal_attribute",
    "resolvers", "services", "translator"] rfl (by decide) ?_
  simp [Json.Normal, normal_ofText?, normal_translator, normalItems_map normal_method,
    normalItems_map normal_service, normalItems_map normal_resolver]

/-! ## The layers joined -/

/-- A value is made of the written defaults, of the layer of a file laid over them, and of what some
entries make laid over both. -/
def Layered (defaults : Settings) (layer : Json) (entries : List (List String × Json))
    (merged : Json) : Prop :=
  ∃ lower vars, lower.Normal ∧ merged.Normal ∧ Overlaid defaults.toJson layer lower ∧
    MadeOf entries vars ∧ Overlaid lower vars merged

/-- The one value that is made of the layers is what is found. -/
theorem layered_iff (hlayer : layer.Normal) (henv : Independent (given environment)) :
    Layered defaults layer (given environment) merged ↔
      merged = (defaults.toJson.overlay layer).overlay (ofVariables environment) := by
  have hdefaults := normal_toJson defaults
  have hlower := Json.normal_overlay hdefaults hlayer
  have hmade := madeOf_ofVariables henv
  constructor
  · rintro ⟨lower, vars, hnormal, hmerged, hfile, hvariables, hjoin⟩
    cases (Json.overlaid_iff hdefaults hlayer hnormal).1 hfile
    cases hvariables.unique hmade
    exact (Json.overlaid_iff hlower hmade.normal hmerged).1 hjoin
  · rintro rfl
    exact ⟨_, _, hlower, Json.normal_overlay hlower hmade.normal,
      (Json.overlay_joins hdefaults hlayer).1, hmade, (Json.overlay_joins hlower hmade.normal).1⟩

/-! ## What a name has in the joined layers -/

/-- A variable gives a setting or something inside it. -/
def Names (environment : List (String × String)) (name : String) : Prop :=
  ∃ e ∈ given environment, e.1.head? = some name

/-- A name that no variable has is not in what the variables make. -/
theorem find?_eq_none_of_not_names (henv : Independent (given environment))
    (hvariables : ofVariables environment = .obj members) {name : String}
    (h : ¬ Names environment name) : find? name members = none := by
  have hmade := madeOf_ofVariables henv
  rw [hvariables] at hmade
  refine Option.eq_none_iff_forall_ne_some.2 fun v hv => h ?_
  rcases hmade.nothingElse [name] v (by simp [at?, hv]) with hnil | ⟨⟨path, w⟩, he, hpath⟩
  · cases hnil
  · have hne := (ne_nil_and_normal_of_mem_given he).1
    refine ⟨_, he, ?_⟩
    cases path with
    | nil => exact absurd rfl hne
    | cons first path =>
        simp only [List.cons_prefix_cons] at hpath
        rcases hpath with ⟨rfl, -⟩ | ⟨rfl, -⟩ <;> rfl

/-- What a variable gives for the whole of a name is in what the variables make. -/
theorem find?_eq_some_of_given (henv : Independent (given environment))
    (hvariables : ofVariables environment = .obj members) {name : String}
    (h : ([name], v) ∈ given environment) : find? name members = some v := by
  have hmade := (madeOf_ofVariables henv).value _ h
  simpa [hvariables, at?] using hmade

/-- The written defaults name every setting. -/
theorem find?_toJson_ne_none {written : List (String × Json)} (h : defaults.toJson = .obj written)
    (k : Setting) : find? k.name written ≠ none := by
  cases h
  cases k <;> simp [find?, Setting.name]

/-! ## What is loaded -/

section

variable [Yaml.Dialect]

theorem fileLayer?_eq_some (h : fileLayer? file = some layer) : layer.IsMap ∧ layer.Normal := by
  cases file with
  | none =>
      cases h
      exact ⟨isMap_obj _, List.Pairwise.nil, trivial⟩
  | some text =>
      simp only [fileLayer?, ofFile?] at h
      split at h
      · cases h
        exact ⟨isMap_obj _, List.Pairwise.nil, trivial⟩
      · cases h
        exact ⟨isMap_obj _, List.Pairwise.nil, trivial⟩
      · cases h
        exact ⟨isMap_obj _, Json.normal_normalize _⟩
      · cases h

theorem loadOver_eq (defaults : Settings) (environment : List (String × String))
    (hfile : fileLayer? file = some layer) :
    loadOver defaults file environment =
      (ofLayers ((defaults.toJson.overlay layer).overlay (ofVariables environment))).mapError
        fun _ => .invalidConfig (.malformed "a setting does not have the expected form") := by
  simp only [loadOver, hfile]
  cases ofLayers ((defaults.toJson.overlay layer).overlay (ofVariables environment)) <;> rfl

theorem exists_fileLayer? (h : loadOver defaults file environment = .ok s) :
    ∃ layer, fileLayer? file = some layer := by
  cases hfile : fileLayer? file with
  | none => simp [loadOver, hfile] at h
  | some layer => exact ⟨layer, rfl⟩

/-- What the names have in the joined layers, and what is read from there.  A name that no variable
has has what it has below the variables, and a name to which a variable gives something else than a
map has what was given. -/
structure Joined (defaults : Settings) (file : Option String) (environment : List (String × String))
    (lower joined : List (String × Json)) : Prop where
  ascending : Ascending joined
  reads : loadOver defaults file environment = (ofLayers (.obj joined)).mapError
    fun _ => .invalidConfig (.malformed "a setting does not have the expected form")
  complete : ∀ k : Setting, find? k.name joined ≠ none
  below : ∀ name, ¬ Names environment name → find? name joined = find? name lower
  whole : ∀ name v, ([name], v) ∈ given environment → ¬ v.IsMap → find? name joined = some v

theorem Joined.ofLayers_eq {lower joined : List (String × Json)}
    (hj : Joined defaults file environment lower joined)
    (h : loadOver defaults file environment = .ok s) : ofLayers (.obj joined) = .ok s :=
  Outcome.mapError_eq_ok.1 (hj.reads.symm.trans h)

theorem exists_joined (defaults : Settings) (hfile : fileLayer? file = some layer)
    (henv : Independent (given environment)) :
    ∃ lower joined, defaults.toJson.overlay layer = .obj lower ∧
      (Json.obj lower).overlay (ofVariables environment) = .obj joined ∧
      Joined defaults file environment lower joined := by
  obtain ⟨⟨upper, rfl⟩, hlayer⟩ := fileLayer?_eq_some hfile
  have hwritten := normal_toJson defaults
  obtain ⟨written, hdefaults⟩ : defaults.toJson.IsMap := isMap_obj _
  have hmade := madeOf_ofVariables henv
  obtain ⟨vars, hvariables⟩ := hmade.isMap
  have hreads := loadOver_eq defaults environment hfile
  rw [hdefaults] at hwritten hreads
  have hlower := Json.normal_overlay hwritten hlayer
  rw [Json.overlay_obj] at hlower hreads
  rw [hvariables] at hmade hreads
  rw [Json.overlay_obj] at hreads
  refine ⟨_, _, by rw [hdefaults, Json.overlay_obj], by rw [hvariables, Json.overlay_obj], ?_⟩
  exact {
    ascending := Json.ascending_overlayMembers hlower.1 vars
    reads := hreads
    complete := fun k => Json.find?_overlayMembers_ne_none hlower.1 hmade.normal.1
      (Json.find?_overlayMembers_ne_none hwritten.1 hlayer.1 (find?_toJson_ne_none hdefaults k))
    below := fun name hname => Json.find?_overlayMembers_of_eq_none hlower.1 hmade.normal.1
      (find?_eq_none_of_not_names henv hvariables hname)
    whole := by
      intro name v hv hmap
      rw [Json.find?_overlay hlower.1 hmade.normal.1, find?_eq_some_of_given henv hvariables hv]
      cases find? name (overlayMembers written upper) with
      | none => rfl
      | some x => exact congrArg some (Json.overlay_of_not_maps fun hmaps => hmap hmaps.2) }

/-! ## On what a setting depends -/

/-- Settings are loaded exactly if the joined layers name settings only and every setting can be
read from what its name has there. -/
theorem Joined.load_eq_ok_iff {lower joined : List (String × Json)}
    (hj : Joined defaults file environment lower joined) :
    loadOver defaults file environment = .ok s ↔ (∀ e ∈ joined, e.1 ∈ fieldNames) ∧
      ∀ k : Setting, ∃ v, find? k.name joined = some v ∧
        k.read (lookedAt k.name v) = .ok (k.of s) := by
  rw [hj.reads, Outcome.mapError_eq_ok, ofLayers_eq_ok_iff hj.ascending]
  refine and_congr_right fun _ => forall_congr' fun k => ?_
  obtain ⟨v, hv⟩ := Option.ne_none_iff_exists'.1 (hj.complete k)
  simp [Setting.found, hv]

/-- A setting that neither the file nor a variable names has its default. -/
theorem of_eq_default {members : List (String × Json)}
    (hfile : fileLayer? file = some (.obj members))
    (henv : Independent (given environment)) (h : load file environment = .ok s) {k : Setting}
    (hmember : find? k.name members = none) (hname : ¬ Names environment k.name) :
    k.of s = k.of {} := by
  obtain ⟨lower, joined, hlower, -, hj⟩ := exists_joined {} hfile henv
  have hnormal := normal_toJson {}
  have hlayer := (fileLayer?_eq_some hfile).2
  refine value_congr hj.ascending hnormal.1 (hj.ofLayers_eq h) ofLayers_default ?_
  cases hlower
  rw [hj.below _ hname, Json.find?_overlayMembers_of_eq_none hnormal.1 hlayer.1 hmember]

/-- A setting that no variable names is the same whatever the variables are. -/
theorem of_eq_of_not_names (hfile : fileLayer? file = some layer)
    (henv : Independent (given environment)) (henv' : Independent (given environment'))
    (h : load file environment = .ok s) (h' : load file environment' = .ok s') {k : Setting}
    (hname : ¬ Names environment k.name) (hname' : ¬ Names environment' k.name) :
    k.of s' = k.of s := by
  obtain ⟨lower, joined, hlower, -, hj⟩ := exists_joined {} hfile henv
  obtain ⟨_, joined', hlower', -, hj'⟩ := exists_joined {} hfile henv'
  cases hlower.symm.trans hlower'
  exact value_congr hj'.ascending hj.ascending (hj'.ofLayers_eq h') (hj.ofLayers_eq h)
    ((hj'.below _ hname').trans (hj.below _ hname).symm)

/-- A setting to which a variable gives something else than a map is the same whatever is below the
variables. -/
theorem of_eq_of_given (henv : Independent (given environment))
    (henv' : Independent (given environment')) (h : loadOver defaults file environment = .ok s)
    (h' : loadOver defaults' file' environment' = .ok s') {k : Setting} (hv : ¬ v.IsMap)
    (hgiven : ([k.name], v) ∈ given environment) (hgiven' : ([k.name], v) ∈ given environment') :
    k.of s' = k.of s := by
  obtain ⟨layer, hfile⟩ := exists_fileLayer? h
  obtain ⟨layer', hfile'⟩ := exists_fileLayer? h'
  obtain ⟨_, joined, -, -, hj⟩ := exists_joined defaults hfile henv
  obtain ⟨_, joined', -, -, hj'⟩ := exists_joined defaults' hfile' henv'
  exact value_congr hj'.ascending hj.ascending (hj'.ofLayers_eq h') (hj.ofLayers_eq h)
    ((hj'.whole _ v hgiven' hv).trans (hj.whole _ v hgiven hv).symm)

/-- Settings are read from exactly one map, which is the defaults with the map of the file laid over
them and then what the variables make, in whatever order they come.  They are loaded exactly if this
map names settings only and every setting can be read from what its name has there.  At the end of
the path of a variable it has what the variable gives, if this is not a map, whatever the defaults
and the file are.  So of the settings that are loaded one that neither of the two layers names has
its default, one that no variable names does not depend on the variables, and one to which a
variable gives something else than a map depends neither on the file nor on the defaults. -/
theorem layers_determine_settings {members : List (String × Json)}
    (hfile : fileLayer? file = some (.obj members)) (henv : Independent (given environment)) :
    ∃ joined,
      (∀ merged, Layered {} (.obj members) (given environment) merged ↔ merged = .obj joined) ∧
      load file environment = (ofLayers (.obj joined)).mapError (fun _ =>
        .invalidConfig (.malformed "a setting does not have the expected form")) ∧
      (∀ s, load file environment = .ok s ↔ (∀ e ∈ joined, e.1 ∈ fieldNames) ∧
        ∀ k : Setting, ∃ v, find? k.name joined = some v ∧
          k.read (lookedAt k.name v) = .ok (k.of s)) ∧
      (∀ environment', environment.Perm environment' →
        load file environment' = load file environment) ∧
      (∀ defaults layer merged, Layered defaults layer (given environment) merged →
        ∀ e ∈ given environment, ¬ e.2.IsMap → at? e.1 merged = some e.2) ∧
      ∀ s, load file environment = .ok s → ∀ k : Setting,
        (find? k.name members = none → ¬ Names environment k.name → k.of s = k.of {}) ∧
        (¬ Names environment k.name → ∀ environment' s', Independent (given environment') →
          ¬ Names environment' k.name → load file environment' = .ok s' → k.of s' = k.of s) ∧
        (∀ v, ([k.name], v) ∈ given environment → ¬ v.IsMap → ∀ defaults file' environment' s',
          Independent (given environment') → ([k.name], v) ∈ given environment' →
            loadOver defaults file' environment' = .ok s' → k.of s' = k.of s) := by
  have hlayer := (fileLayer?_eq_some hfile).2
  obtain ⟨lower, joined, hlower, hjoined, hj⟩ := exists_joined {} hfile henv
  refine ⟨joined, fun merged => ?_, hj.reads, fun s => hj.load_eq_ok_iff,
    fun environment' hperm => ?_, ?_, fun s hs k => ⟨of_eq_default hfile henv hs, ?_, ?_⟩⟩
  · rw [layered_iff hlayer henv, hlower, hjoined]
  · simp only [load, loadOver, ofVariables_perm henv hperm]
  · rintro defaults layer merged ⟨lower, vars, -, -, -, hmade, hjoin⟩ e he hmap
    exact hjoin.at?_of_not_isMap hmap (hmade.value e he)
  · intro hname environment' s' henv' hname' hs'
    exact of_eq_of_not_names hfile henv henv' hs hs' hname hname'
  · intro v hgiven hv defaults file' environment' s' henv' hgiven' hs'
    exact of_eq_of_given henv henv' hs hs' hv hgiven hgiven'

end

/-- A file that sets the method of services and chooses a translator. -/
def otpFile : String :=
  "default_method: otp\ntranslator:\n  kind: static\n  mappings: []\n"

/-- Variables that set the same method, and one field of the translator. -/
def duoVariables : List (String × String) :=
  [("STEPUP__DEFAULT_METHOD", "duo"), ("stepup__translator__ignore_if_no_match", "false")]

theorem mem_given_duoVariables : (["default_method"], .str "duo") ∈ given duoVariables := by
  have hgiven : (given duoVariables).map (fun e => (e.1, e.2.asStr?)) =
      [(["default_method"], some "duo"), (["translator", "ignore_if_no_match"], none)] := by
    decide +kernel
  have hmem : (["default_method"], some "duo") ∈
      (given duoVariables).map fun e => (e.1, e.2.asStr?) := by simp [hgiven]
  obtain ⟨⟨path, v⟩, he, heq⟩ := List.mem_map.1 hmem
  cases v with
  | str => simp_all [Json.asStr?]
  | _ => simp [Json.asStr?] at heq

theorem load_otpFile : load (some otpFile) duoVariables =
    .ok { defaultMethod := some "duo", translator := .static [] false } := by
  have hload : (load (some otpFile) duoVariables).toOption =
      some { defaultMethod := some "duo", translator := .static [] false } := by decide +kernel
  exact Outcome.toOption_eq_some.1 hload

/-- The variables hold where the file differs, and would over any other file and any defaults. -/
theorem duo_in_place_of_otp :
    ∃ members, fileLayer? (some otpFile) = some (.obj members) ∧
      Independent (given duoVariables) ∧
      load (some otpFile) duoVariables =
        .ok { defaultMethod := some "duo", translator := .static [] false } ∧
      (∃ joined, (∀ merged, Layered {} (.obj members) (given duoVariables) merged ↔
        merged = .obj joined) ∧ at? ["default_method"] (.obj joined) = some (.str "duo")) ∧
      ∀ defaults file s, loadOver defaults file duoVariables = .ok s →
        s.defaultMethod = some "duo" := by
  have hmap : ¬ (Json.str "duo").IsMap := fun ⟨_, h⟩ => nomatch h
  have henv : Independent (given duoVariables) := by decide +kernel
  obtain ⟨layer, hfile⟩ := exists_fileLayer? load_otpFile
  obtain ⟨members, rfl⟩ := (fileLayer?_eq_some hfile).1
  obtain ⟨joined, hjoined, -, -, -, hat, hset⟩ := layers_determine_settings hfile henv
  refine ⟨members, hfile, henv, load_otpFile, ⟨joined, hjoined, ?_⟩, fun defaults file s hs => ?_⟩
  · exact hat {} (.obj members) (.obj joined) ((hjoined _).2 rfl) _ mem_given_duoVariables hmap
  · exact (hset _ load_otpFile .defaultMethod).2.2 _ mem_given_duoVariables hmap defaults file _ s
      henv mem_given_duoVariables hs

end StepUp.Settings
