import StepUp.Json.Record

/-!
# Method requests

A request demands that a method be satisfied for a target service, and tells who demands it.
-/

namespace StepUp

/-- Who demands a method.  The order of the constructors settles ties between equally strong
requests for one method. -/
inductive MethodSource where
  /-- The login request names the method. -/
  | requestParam
  /-- An attribute of the authenticated principal does. -/
  | principalAttribute
  /-- The definition of the target service does. -/
  | serviceDefinition
deriving DecidableEq, Repr

namespace MethodSource

/-- The place in the order of sources. -/
def precedence : MethodSource → Nat
  | requestParam => 0
  | principalAttribute => 1
  | serviceDefinition => 2

/-- The written name. -/
def label : MethodSource → String
  | requestParam => "REQUEST_PARAM"
  | principalAttribute => "PRINCIPAL_ATTRIBUTE"
  | serviceDefinition => "REGISTERED_SERVICE_DEFINITION"

/-- The source with a written name. -/
def ofLabel? : String → Option MethodSource
  | "REQUEST_PARAM" => some requestParam
  | "PRINCIPAL_ATTRIBUTE" => some principalAttribute
  | "REGISTERED_SERVICE_DEFINITION" => some serviceDefinition
  | _ => none

/-- The JSON form. -/
def toJson (s : MethodSource) : Json :=
  .str s.label

/-- Reads the JSON form. -/
def ofJson (v : Json) : Json.Read MethodSource := do
  let name ← Json.readVariantName v
  match ofLabel? name with
  | some s => return s
  | none => throw (.unknownVariant name)

end MethodSource

/-- A demand for a method. -/
structure MethodRequest where
  method : String
  target : String
  source : MethodSource
deriving DecidableEq, Repr

namespace MethodRequest

/-- The request in one line. -/
def describe (r : MethodRequest) : String :=
  "MethodRequest\x7b service=" ++ r.target ++ ", authn_method=" ++ r.method ++ ", source="
    ++ r.source.label ++ " \x7d"

/-- The JSON form. -/
def toJson (r : MethodRequest) : Json :=
  .obj [("method", .str r.method), ("source", r.source.toJson),
    ("target_service_id", .str r.target)]

/-- Reads the JSON form. -/
def ofJson (v : Json) : Json.Read MethodRequest := do
  let r ← Json.record ["method", "target_service_id", "source"] false v
  return {
    method := ← r.required "method" Json.readText
    target := ← r.required "target_service_id" Json.readText
    source := ← r.required "source" MethodSource.ofJson }

end MethodRequest

end StepUp
