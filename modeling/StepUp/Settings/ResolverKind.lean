import StepUp.Method.Request

/-!
# Kinds of resolvers

A resolver reads one place in which a method may be demanded.  Two kinds read the principal, so
their requests come from the same source.
-/

namespace StepUp

/-- The places in which a method may be demanded. -/
inductive ResolverKind where
  /-- The method that the login request names. -/
  | requestParameter
  /-- The method that the target service declares. -/
  | serviceDefinition
  /-- The service's role rule, and where that does not apply the principal's attribute. -/
  | roleRule
  /-- The principal's attribute. -/
  | principalAttribute
deriving DecidableEq, Repr

namespace ResolverKind

/-- The source of the requests that a resolver of this kind makes. -/
def source : ResolverKind → MethodSource
  | requestParameter => .requestParam
  | serviceDefinition => .serviceDefinition
  | roleRule | principalAttribute => .principalAttribute

/-- The name in settings. -/
def label : ResolverKind → String
  | requestParameter => "request_parameter"
  | serviceDefinition => "service_definition"
  | roleRule => "role_rule"
  | principalAttribute => "principal_attribute"

/-- The kind with a name in settings. -/
def ofLabel? : String → Option ResolverKind
  | "request_parameter" => some requestParameter
  | "service_definition" => some serviceDefinition
  | "role_rule" => some roleRule
  | "principal_attribute" => some principalAttribute
  | _ => none

/-- The name in messages. -/
def title : ResolverKind → String
  | requestParameter => "RequestParameter"
  | serviceDefinition => "ServiceDefinition"
  | roleRule => "RoleRule"
  | principalAttribute => "PrincipalAttribute"

/-- The JSON form. -/
def toJson (k : ResolverKind) : Json :=
  .str k.label

/-- Reads the JSON form. -/
def ofJson (v : Json) : Json.Read ResolverKind := do
  let name ← Json.readVariantName v
  match ofLabel? name with
  | some k => return k
  | none => throw (.unknownVariant name)

end ResolverKind

end StepUp
