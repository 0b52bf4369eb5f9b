import StepUp.Login.Attributes
import StepUp.Login.Request
import StepUp.Method.Basic
import StepUp.Settings.ResolverKind
import StepUp.Settings.Translator

/-!
# Settings

Everything that can be configured, with the values that hold where nothing is said.
-/

namespace StepUp

/-- The configuration of a service. -/
structure Settings where
  /-- The methods that are registered. -/
  methods : List Method := []
  /-- A file with more methods. -/
  methodsFile : Option String := none
  /-- The attribute of a principal that demands a method. -/
  principalAttribute : String := authnMethodAttribute
  /-- The method of services that declare none. -/
  defaultMethod : Option String := none
  /-- How raw values are mapped to methods. -/
  translator : TranslatorSettings := .passthrough
  /-- The resolvers, in the order in which they are asked. -/
  resolvers : List ResolverKind := [.requestParameter, .serviceDefinition, .roleRule]
  /-- The target services that are known. -/
  services : List RegisteredService := []
deriving DecidableEq, Repr

namespace Settings

/-- The JSON form. -/
def toJson (s : Settings) : Json :=
  .obj [("default_method", Json.ofText? s.defaultMethod),
    ("methods", .arr (s.methods.map Method.toJson)),
    ("methods_file", Json.ofText? s.methodsFile),
    ("principal_attribute", .str s.principalAttribute),
    ("resolvers", .arr (s.resolvers.map ResolverKind.toJson)),
    ("services", .arr (s.services.map RegisteredService.toJson)),
    ("translator", s.translator.toJson)]

/-- The names of the settings. -/
def fieldNames : List String :=
  ["methods", "methods_file", "principal_attribute", "default_method", "translator", "resolvers",
    "services"]

/-- Reads the JSON form; a setting that is not there has its default. -/
def ofJson (v : Json) : Json.Read Settings := do
  let r ← Json.record fieldNames true v
  let d : Settings := {}
  return {
    methods := ← r.orElse "methods" d.methods (Json.readList Method.ofJson)
    methodsFile := ← r.orElse "methods_file" d.methodsFile (Json.readOption Json.readText)
    principalAttribute := ← r.orElse "principal_attribute" d.principalAttribute Json.readText
    defaultMethod := ← r.orElse "default_method" d.defaultMethod (Json.readOption Json.readText)
    translator := ← r.orElse "translator" d.translator TranslatorSettings.ofJson
    resolvers := ← r.orElse "resolvers" d.resolvers (Json.readList ResolverKind.ofJson)
    services := ← r.orElse "services" d.services (Json.readList RegisteredService.ofJson) }

end Settings

end StepUp
