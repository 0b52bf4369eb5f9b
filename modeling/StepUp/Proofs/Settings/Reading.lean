import StepUp.Proofs.Failure.Outcome
import StepUp.Proofs.Json.WrittenForm
import StepUp.Settings.Load

/-!
# What a setting is read from

Joined layers are read setting by setting: a setting is read from the value that its name has in
them, and where it has none the setting has its default (`Setting.found`).  That every setting is
found so and that no other name comes is all that reading takes (`Settings.ofLayers_eq_ok_iff`).  So
two joined layers in which a name has the same value give the same setting, whatever else is in them
(`Settings.value_congr`).
-/

namespace StepUp

open Json (Read Record memberSlot)
open Text (Ascending find?)

/-! ## The settings -/

/-- A setting that a layer can name. -/
inductive Setting where
  | methods
  | methodsFile
  | principalAttribute
  | defaultMethod
  | translator
  | resolvers
  | services
deriving DecidableEq

namespace Setting

/-- What a setting may be. -/
def Value : Setting → Type
  | methods => List Method
  | methodsFile | defaultMethod => Option String
  | principalAttribute => String
  | translator => TranslatorSettings
  | resolvers => List ResolverKind
  | services => List RegisteredService

/-- The name in layers. -/
def name : Setting → String
  | methods => "methods"
  | methodsFile => "methods_file"
  | principalAttribute => "principal_attribute"
  | defaultMethod => "default_method"
  | translator => "translator"
  | resolvers => "resolvers"
  | services => "services"

/-- What the setting is in a configuration. -/
def of : (k : Setting) → Settings → k.Value
  | methods, s => s.methods
  | methodsFile, s => s.methodsFile
  | principalAttribute, s => s.principalAttribute
  | defaultMethod, s => s.defaultMethod
  | translator, s => s.translator
  | resolvers, s => s.resolvers
  | services, s => s.services

/-- Reads the setting from the value of its name. -/
def read : (k : Setting) → Json → Read k.Value
  | methods => Json.readList Method.ofJson
  | methodsFile | defaultMethod => Json.readOption Json.readText
  | principalAttribute => Json.readText
  | translator => TranslatorSettings.ofJson
  | resolvers => Json.readList ResolverKind.ofJson
  | services => Json.readList RegisteredService.ofJson

/-- What the members of the joined layers say of the setting. -/
def found (k : Setting) (members : List (String × Json)) : Read k.Value :=
  match find? k.name members with
  | some v => k.read (Settings.lookedAt k.name v)
  | none => .ok (k.of {})

end Setting

/-! ## Reading setting by setting -/

/-- An object that is read as a strict record is the record of its members, and names known fields
only. -/
theorem Json.of_record_obj {names : List String} {members : List (String × Json)} {r : Record}
    (h : record names true (.obj members) = .ok r) :
    r = ⟨memberSlot members⟩ ∧ ∀ e ∈ members, e.1 ∈ names := by
  simp only [record] at h
  split at h
  next => cases h
  next => cases h
  next hextra _ =>
    cases h
    refine ⟨rfl, fun e he => ?_⟩
    simpa using List.find?_eq_none.1 hextra e he

namespace Settings

variable {members l l' : List (String × Json)} {s s' : Settings}

/-- Every setting is read from the member of its name, and every member is that of a setting. -/
theorem of_ofJson (h : ofJson (.obj members) = .ok s) :
    (∀ e ∈ members, e.1 ∈ fieldNames) ∧ ∀ k : Setting,
      Record.orElse ⟨memberSlot members⟩ k.name (k.of {}) k.read = .ok (k.of s) := by
  simp only [ofJson, Outcome.bind_eq_ok] at h
  obtain ⟨r, hr, methods, hmethods, methodsFile, hmethodsFile, principalAttribute,
    hprincipalAttribute, defaultMethod, hdefaultMethod, translator, htranslator, resolvers,
    hresolvers, services, hservices, hs⟩ := h
  obtain ⟨rfl, hknown⟩ := Json.of_record_obj hr
  cases hs
  exact ⟨hknown, fun k => by cases k <;> assumption⟩

/-- Nothing else is needed for reading. -/
theorem ofJson_of_fields (hdistinct : (members.map (·.1)).Nodup)
    (hknown : ∀ e ∈ members, e.1 ∈ fieldNames)
    (hfields : ∀ k : Setting,
      Record.orElse ⟨memberSlot members⟩ k.name (k.of {}) k.read = .ok (k.of s)) :
    ofJson (.obj members) = .ok s := by
  have hrecord : Json.record fieldNames true (.obj members) = .ok ⟨memberSlot members⟩ :=
    Json.record_obj hdistinct (List.forall_mem_map.2 hknown)
  simp only [ofJson, Outcome.bind_eq_ok]
  exact ⟨_, hrecord, _, hfields .methods, _, hfields .methodsFile, _, hfields .principalAttribute,
    _, hfields .defaultMethod, _, hfields .translator, _, hfields .resolvers, _,
    hfields .services, rfl⟩

theorem orElse_lookedAt (k : Setting) (members : List (String × Json)) :
    Record.orElse ⟨memberSlot (members.map fun e => (e.1, lookedAt e.1 e.2))⟩ k.name (k.of {})
        k.read =
      k.found members := by
  simp only [Record.orElse, memberSlot, Text.find?_map lookedAt, Setting.found]
  cases find? k.name members <;> rfl

/-- Joined layers are read exactly if they name settings only and every setting is found in them. -/
theorem ofLayers_eq_ok_iff (h : Ascending members) : ofLayers (.obj members) = .ok s ↔
    (∀ e ∈ members, e.1 ∈ fieldNames) ∧ ∀ k : Setting, k.found members = .ok (k.of s) := by
  have hnames : (members.map fun e => (e.1, lookedAt e.1 e.2)).map (·.1) = members.map (·.1) := by
    rw [List.map_map]
    rfl
  constructor
  · intro hread
    obtain ⟨hknown, hfields⟩ := of_ofJson hread
    exact ⟨fun e he => hknown (e.1, lookedAt e.1 e.2) (List.mem_map.2 ⟨e, he, rfl⟩), fun k =>
      orElse_lookedAt k members ▸ hfields k⟩
  · rintro ⟨hknown, hfound⟩
    exact ofJson_of_fields (hnames ▸ h.nodup_keys) (List.forall_mem_map.2 hknown) fun k =>
      (orElse_lookedAt k members).trans (hfound k)

/-- What a setting is depends on the value of its name only. -/
theorem value_congr (hl : Ascending l) (hl' : Ascending l') (h : ofLayers (.obj l) = .ok s)
    (h' : ofLayers (.obj l') = .ok s') {k : Setting} (hsame : find? k.name l = find? k.name l') :
    k.of s = k.of s' := by
  have hk := ((ofLayers_eq_ok_iff hl).1 h).2 k
  have hk' := ((ofLayers_eq_ok_iff hl').1 h').2 k
  rw [Setting.found, hsame] at hk
  exact Except.ok.inj (hk.symm.trans hk')

/-- The defaults are read as they are. -/
theorem ofLayers_default : ofLayers ({} : Settings).toJson = .ok {} := by
  rfl

end Settings

end StepUp
