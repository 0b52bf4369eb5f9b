import StepUp.Login.Attributes
import StepUp.Time.Rfc3339

/-!
# Principals and authentications

A principal is one identity, known by its id, and an authentication is one completed step that
proved it.
-/

namespace StepUp

open Time (Timestamp)

/-- An authenticated subject. -/
structure Principal where
  id : String
  attributes : Attributes := .empty
deriving Inhabited

namespace Principal

/-- Whether two principals are one identity: their attributes do not count. -/
def sameIdentity (a b : Principal) : Bool :=
  a.id == b.id

/-- The JSON form. -/
def toJson (p : Principal) : Json :=
  .obj [("attributes", p.attributes.toJson), ("id", .str p.id)]

/-- Reads the JSON form. -/
def ofJson (v : Json) : Json.Read Principal := do
  let r ← Json.record ["id", "attributes"] false v
  return {
    id := ← r.required "id" Json.readText
    attributes := ← r.orElse "attributes" .empty Attributes.ofJson }

end Principal

/-- A completed authentication step. -/
structure Authentication where
  principal : Principal
  attributes : Attributes := .empty
  authenticatedAt : Timestamp := .epoch
deriving Inhabited

namespace Authentication

/-- The authentication with an attribute set. -/
def setAttribute (a : Authentication) (name : String) (v : Json) : Authentication :=
  { a with attributes := a.attributes.insert name v }

/-- The methods that the step satisfied. -/
def satisfiedMethods (a : Authentication) : Text.NameSet :=
  a.attributes.satisfiedMethods

/-- The JSON form. -/
def toJson (a : Authentication) : Json :=
  .obj [("attributes", a.attributes.toJson), ("authenticated_at", .str a.authenticatedAt.text),
    ("principal", a.principal.toJson)]

/-- Reads an instant. -/
def readTimestamp : Json → Json.Read Timestamp
  | .str s =>
    match Timestamp.parse? s with
    | some t => .ok t
    | none => .error .badTimestamp
  | _ => .error (.wrongType "timestamp")

/-- Reads the JSON form. -/
def ofJson (v : Json) : Json.Read Authentication := do
  let r ← Json.record ["principal", "attributes", "authenticated_at"] false v
  return {
    principal := ← r.required "principal" Principal.ofJson
    attributes := ← r.orElse "attributes" .empty Attributes.ofJson
    authenticatedAt := ← r.required "authenticated_at" readTimestamp }

end Authentication

end StepUp
