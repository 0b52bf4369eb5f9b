import StepUp.Json.Record
import StepUp.Text.Blank

/-!
# Login requests and target services

What arrives with a login: the target service, a method that the caller may name, the session it
may come with.  And what is known beforehand of a target service: the method it requires, or the
rule by which a role of the principal requires it.
-/

namespace StepUp

/-- A login request. -/
structure LoginRequest where
  serviceId : String
  authnMethod : Option String := none
  sessionId : Option String := none
  renew : Bool := false
deriving DecidableEq, Repr, Inhabited

namespace LoginRequest

/-- The session id; a blank one counts as absent. -/
def session? (r : LoginRequest) : Option String :=
  r.sessionId.bind Text.nonblank?

/-- The JSON form. -/
def toJson (r : LoginRequest) : Json :=
  .obj [("authn_method", Json.ofText? r.authnMethod), ("renew", .bool r.renew),
    ("service_id", .str r.serviceId), ("session_id", Json.ofText? r.sessionId)]

/-- Reads the JSON form. -/
def ofJson (v : Json) : Json.Read LoginRequest := do
  let r ← Json.record ["service_id", "authn_method", "session_id", "renew"] false v
  return {
    serviceId := ← r.required "service_id" Json.readText
    authnMethod := ← r.orElse "authn_method" none (Json.readOption Json.readText)
    sessionId := ← r.orElse "session_id" none (Json.readOption Json.readText)
    renew := ← r.orElse "renew" false Json.readBool }

end LoginRequest

/-- A rule that requires a service's method of principals with a certain attribute. -/
structure RoleRule where
  attributeName : Option String
  attributePattern : Option String
deriving DecidableEq, Repr

namespace RoleRule

/-- The JSON form. -/
def toJson (r : RoleRule) : Json :=
  .obj [("attribute_name", Json.ofText? r.attributeName),
    ("attribute_pattern", Json.ofText? r.attributePattern)]

/-- Reads the JSON form. -/
def ofJson (v : Json) : Json.Read RoleRule := do
  let r ← Json.record ["attribute_name", "attribute_pattern"] true v
  return {
    attributeName := ← r.optional "attribute_name" Json.readText
    attributePattern := ← r.optional "attribute_pattern" Json.readText }

end RoleRule

/-- The definition of a target service. -/
structure RegisteredService where
  id : String
  authnMethod : Option String := none
  roleRule : Option RoleRule := none
deriving DecidableEq, Repr

namespace RegisteredService

/-- The JSON form. -/
def toJson (s : RegisteredService) : Json :=
  .obj [("authn_method", Json.ofText? s.authnMethod), ("id", .str s.id),
    ("mfa_role", match s.roleRule with
      | some rule => rule.toJson
      | none => .null)]

/-- Reads the JSON form. -/
def ofJson (v : Json) : Json.Read RegisteredService := do
  let r ← Json.record ["id", "authn_method", "mfa_role"] true v
  return {
    id := ← r.required "id" Json.readText
    authnMethod := ← r.orElse "authn_method" none (Json.readOption Json.readText)
    roleRule := ← r.orElse "mfa_role" none (Json.readOption RoleRule.ofJson) }

end RegisteredService

end StepUp
