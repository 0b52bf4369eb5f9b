import StepUp.Failure.ServiceError
import StepUp.Settings.Basic
import StepUp.Settings.Variable
import StepUp.Yaml.Reader

/-!
# Loading settings

Settings are loaded from three layers: the defaults, over them those of a YAML file, and over these
the ones that environment variables give.  A file that is not there is an empty layer.
-/

namespace StepUp.Settings

variable [Yaml.Dialect]

/-- The layer that a settings file gives: a map, or nothing at all. -/
def ofFile? (text : String) : Option Json :=
  match Yaml.Dialect.value? text with
  | some none | some (some (.str "")) => some (.obj [])
  | some (some (.obj members)) => some (Json.obj members).normalize
  | _ => none

/-! ## What layers may write differently

A layer may give the kind of a translator by its number.  A structure written as a list may have
more items than it has fields, and a resolver written as a map more members than the one that names
it; what comes after them is not looked at. -/

/-- The kinds of translators in the order of their numbers. -/
def translatorKinds : List String := ["passthrough", "static", "regex"]

/-- A translator with its kind by its name, where a layer gives its number. -/
def nameKind : Json → Json
  | .obj members =>
    match Text.find? "kind" members with
    | some (.int (.ofNat n)) =>
      match translatorKinds[n]? with
      | some kind => .obj (Text.put "kind" (.str kind) members)
      | none => .obj members
    | _ => .obj members
  | v => v

/-- What is looked at of a structure with so many fields. -/
def firstItems (count : Nat) : Json → Json
  | .arr items => .arr (items.take count)
  | v => v

/-- What is looked at of the definition of a target service. -/
def withoutServiceSurplus : Json → Json
  | .arr (id :: method :: role :: _) => .arr [id, method, firstItems 2 role]
  | .obj members =>
    .obj (members.map fun (name, v) => (name, if name = "mfa_role" then firstItems 2 v else v))
  | v => v

/-- What is looked at of the name of a resolver. -/
def firstMember : Json → Json
  | .obj (m :: _) => .obj [m]
  | v => v

/-- What is looked at of the value of a setting. -/
def lookedAt : String → Json → Json
  | "translator", v => nameKind v
  | "methods", .arr items => .arr (items.map (firstItems 2))
  | "services", .arr items => .arr (items.map withoutServiceSurplus)
  | "resolvers", .arr items => .arr (items.map firstMember)
  | _, v => v

/-- Reads the settings of all layers together. -/
def ofLayers : Json → Json.Read Settings
  | .obj members => ofJson (.obj (members.map fun e => (e.1, lookedAt e.1 e.2)))
  | v => ofJson v

/-! ## Loading -/

/-- The layer of a file's content, which is `none` where there is no file. -/
def fileLayer? : Option String → Option Json
  | none => some (.obj [])
  | some text => ofFile? text

/-- The settings of a file's content and of the variables of an environment in the order of their
names, over a layer of defaults. -/
def loadOver (defaults : Settings) (file : Option String) (environment : List (String × String)) :
    Except ServiceError Settings :=
  match fileLayer? file with
  | none => .error (.invalidConfig (.malformed "the settings file is not a map"))
  | some layer =>
    match ofLayers ((defaults.toJson.overlay layer).overlay (ofVariables environment)) with
    | .ok s => .ok s
    | .error _ => .error (.invalidConfig (.malformed "a setting does not have the expected form"))

/-- The settings of a file's content and of the variables of an environment over the defaults that
settings have. -/
def load (file : Option String) (environment : List (String × String)) :
    Except ServiceError Settings :=
  loadOver {} file environment

end StepUp.Settings
