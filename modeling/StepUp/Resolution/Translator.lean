import StepUp.Resolution.PatternCache
import StepUp.Settings.Translator
import StepUp.Text.Blank

/-!
# Translators

A translator maps a raw value to the method it stands for.  Its patterns are compiled when it is
built, so a translator that was built never meets a pattern that does not compile.
-/

namespace StepUp

variable [Regex.Dialect]

/-- A translator that was built from its settings. -/
structure Translator where
  settings : TranslatorSettings

namespace Translator

/-- The translator that takes values for names of methods. -/
def passthrough : Translator := ⟨.passthrough⟩

/-- The patterns of the settings, in their order. -/
def patterns : TranslatorSettings → List String
  | .regex mappings _ _ => mappings.map (·.pattern)
  | _ => []

/-- Compiles patterns up to the first that does not compile. -/
def compileAll : List String → Cached Unit
  | [] => pure ()
  | p :: rest => do
    let _ ← compiledPattern p
    compileAll rest

/-- The translator of some settings. -/
def build (settings : TranslatorSettings) : Cached Translator := do
  compileAll (patterns settings)
  return ⟨settings⟩

/-- The method of the first mapping whose pattern matches the whole value. -/
def firstMatch (value : String) : List RegexMapping → Cached (Option String)
  | [] => pure none
  | m :: rest => do
    if ← fullMatch m.pattern value then return some m.method
    else firstMatch value rest

/-- The method that a value stands for; `none` means that the value asks for no method.  Values
without a mapping stand for themselves in a static translator and for the default method in one
with patterns, unless they are to be refused. -/
def translate (t : Translator) (serviceId value : String) : Cached (Option String) := do
  match t.settings with
  | .passthrough => return some value
  | .static mappings ignore =>
    match mappings.find? fun m => m.values.contains value with
    | some m => return some m.method
    | none => if ignore then return some value else throw (.unrecognizedMethod value serviceId)
  | .regex mappings ignore defaultMethod =>
    match ← firstMatch value mappings with
    | some method => return some method
    | none =>
      if ignore then return defaultMethod.bind Text.trimmed?
      else throw (.unrecognizedMethod value serviceId)

end Translator

end StepUp
