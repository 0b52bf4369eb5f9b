import StepUp.Json.Record

/-!
# Settings of a translator

How a raw value, from a request, a service or a principal, is mapped to the name of a method.
-/

namespace StepUp

/-- Values that stand for one method. -/
structure StaticMapping where
  values : List String
  method : String
deriving DecidableEq, Repr

/-- A pattern whose matches stand for one method. -/
structure RegexMapping where
  pattern : String
  method : String
deriving DecidableEq, Repr

/-- How raw values are mapped to methods. -/
inductive TranslatorSettings where
  /-- Values are names of methods. -/
  | passthrough
  /-- Values are looked up. -/
  | static (mappings : List StaticMapping) (ignoreIfNoMatch : Bool)
  /-- Values are matched against patterns. -/
  | regex (mappings : List RegexMapping) (ignoreIfNoMatch : Bool) (defaultMethod : Option String)
deriving DecidableEq, Repr

/-- The JSON form. -/
def StaticMapping.toJson (m : StaticMapping) : Json :=
  .obj [("method", .str m.method), ("values", .arr (m.values.map .str))]

/-- Reads the JSON form. -/
def StaticMapping.ofJson (v : Json) : Json.Read StaticMapping := do
  let r ← Json.record ["values", "method"] true v
  return {
    values := ← r.required "values" (Json.readList Json.readText)
    method := ← r.required "method" Json.readText }

/-- The JSON form. -/
def RegexMapping.toJson (m : RegexMapping) : Json :=
  .obj [("method", .str m.method), ("pattern", .str m.pattern)]

/-- Reads the JSON form. -/
def RegexMapping.ofJson (v : Json) : Json.Read RegexMapping := do
  let r ← Json.record ["pattern", "method"] true v
  return {
    pattern := ← r.required "pattern" Json.readText
    method := ← r.required "method" Json.readText }

namespace TranslatorSettings

/-- The JSON form; the kind is one of its members. -/
def toJson : TranslatorSettings → Json
  | passthrough => .obj [("kind", .str "passthrough")]
  | static mappings ignore =>
    .obj [("ignore_if_no_match", .bool ignore), ("kind", .str "static"),
      ("mappings", .arr (mappings.map StaticMapping.toJson))]
  | regex mappings ignore defaultMethod =>
    .obj [("default_method", Json.ofText? defaultMethod), ("ignore_if_no_match", .bool ignore),
      ("kind", .str "regex"), ("mappings", .arr (mappings.map RegexMapping.toJson))]

/-- The kind that a value names, and the value without it: a member of an object, or the first item
of an array. -/
def splitKind (v : Json) : Json.Read (String × Json) :=
  match v with
  | .obj members =>
    match members.filter fun e => e.1 == "kind" with
    | [] => .error (.missingField "kind")
    | [(_, kind)] => do
      return (← Json.readText kind, .obj (members.filter fun e => e.1 != "kind"))
    | _ => .error (.repeatedField "kind")
  | .arr (kind :: items) => do return (← Json.readText kind, .arr items)
  | _ => .error (.wrongType "translator")

/-- Reads the JSON form.  The other members of a passthrough are not looked at. -/
def ofJson (v : Json) : Json.Read TranslatorSettings := do
  match ← splitKind v with
  | ("passthrough", rest) =>
    match rest with
    | .arr (_ :: _) => throw .surplusElement
    | _ => return passthrough
  | ("static", rest) =>
    let r ← Json.record ["mappings", "ignore_if_no_match"] true rest
    return static (← r.required "mappings" (Json.readList StaticMapping.ofJson))
      (← r.orElse "ignore_if_no_match" true Json.readBool)
  | ("regex", rest) =>
    let r ← Json.record ["mappings", "ignore_if_no_match", "default_method"] true rest
    return regex (← r.required "mappings" (Json.readList RegexMapping.ofJson))
      (← r.orElse "ignore_if_no_match" true Json.readBool)
      (← r.orElse "default_method" none (Json.readOption Json.readText))
  | (kind, _) => throw (.unknownVariant kind)

end TranslatorSettings

end StepUp
