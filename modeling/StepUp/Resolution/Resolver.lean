import StepUp.Login.Authentication
import StepUp.Login.Request
import StepUp.Method.Registry
import StepUp.Resolution.Translator

/-!
# Resolvers

A resolver reads one place in which methods may be demanded, and proposes requests for the service
that the login is for.  A method that a request names or a service declares has to be registered;
one that only the principal's attributes name is passed over where it is not.
-/

namespace StepUp

variable [Regex.Dialect]

/-- What resolvers can look at. -/
structure ResolutionContext where
  request : LoginRequest
  authentication : Option Authentication := none
  service : Option RegisteredService := none

/-- What the resolvers of a service have in common. -/
structure Resolution where
  registry : Registry
  translator : Translator
  principalAttribute : String
  defaultMethod : Option String

namespace Resolution

/-- The requests for a method that has to be registered. -/
def requireMethod (res : Resolution) (ctx : ResolutionContext) (source : MethodSource)
    (method : String) : Cached (List MethodRequest) := do
  let _ ← res.registry.require method
  return [{ method, target := ctx.request.serviceId, source }]

/-- The method that the login request names. -/
def requestParameter (res : Resolution) (ctx : ResolutionContext) :
    Cached (List MethodRequest) := do
  match ctx.request.authnMethod.bind Text.trimmed? with
  | none => return []
  | some value =>
    match ← res.translator.translate ctx.request.serviceId value with
    | none => return []
    | some method => res.requireMethod ctx .requestParam method

/-- The method that the target service declares, or the default method.  A service with a role rule
leaves the matter to that rule. -/
def serviceDefinition (res : Resolution) (ctx : ResolutionContext) :
    Cached (List MethodRequest) := do
  match ctx.service with
  | none => return []
  | some service =>
    if service.roleRule.isSome then return []
    else
      let method ←
        match service.authnMethod.bind Text.trimmed? with
        | some value => res.translator.translate service.id value
        | none => pure (res.defaultMethod.bind Text.nonblank?)
      match method with
      | none => return []
      | some method => res.requireMethod ctx .serviceDefinition method

/-- The requests for the values of the principal's attribute, one for each that stands for a
registered method. -/
def attributeRequests (res : Resolution) (ctx : ResolutionContext) :
    List String → Cached (List MethodRequest)
  | [] => return []
  | value :: rest => do
    let method ← res.translator.translate ctx.request.serviceId value
    let more ← res.attributeRequests ctx rest
    match method with
    | some method =>
      if res.registry.contains method then
        return { method, target := ctx.request.serviceId, source := .principalAttribute } :: more
      else return more
    | none => return more

/-- The methods that the principal's attribute demands. -/
def principalAttributeRequests (res : Resolution) (ctx : ResolutionContext) :
    Cached (List MethodRequest) := do
  match ctx.authentication.bind fun a => a.principal.attributes.get? res.principalAttribute with
  | none => return []
  | some value => res.attributeRequests ctx value.texts

/-- A role rule as it applies to a login: the method of the service, the pattern, and the texts of
the attribute that the principal has. -/
structure RoleDemand where
  method : String
  pattern : String
  candidates : List String

/-- The role rule that applies: there is a principal and a service with a method and a complete
rule, and the principal has the attribute. -/
def roleDemand? (ctx : ResolutionContext) : Option RoleDemand := do
  let authentication ← ctx.authentication
  let service ← ctx.service
  let rule ← service.roleRule
  let method ← service.authnMethod
  let name ← rule.attributeName
  let pattern ← rule.attributePattern
  let value ← authentication.principal.attributes.get? name
  return { method, pattern, candidates := value.texts }

/-- The candidates that a pattern matches in full. -/
def matching (pattern : String) : List String → Cached (List String)
  | [] => return []
  | candidate :: rest => do
    let hit ← fullMatch pattern candidate
    let more ← matching pattern rest
    return if hit then candidate :: more else more

/-- One request for the method of the service for each matching text of the attribute, if the
method is registered. -/
def roleRequests (res : Resolution) (ctx : ResolutionContext) : Cached (List MethodRequest) := do
  match roleDemand? ctx with
  | none => return []
  | some d =>
    let hits ← matching d.pattern d.candidates
    return if res.registry.contains d.method then
      hits.map fun _ =>
        { method := d.method, target := ctx.request.serviceId, source := .principalAttribute }
    else []

/-- What the role rule demands, and where it demands nothing, what the principal's attribute
does. -/
def roleRule (res : Resolution) (ctx : ResolutionContext) : Cached (List MethodRequest) := do
  match ← res.roleRequests ctx with
  | [] => res.principalAttributeRequests ctx
  | requests => return requests

/-- The requests of a resolver. -/
def resolve (res : Resolution) (kind : ResolverKind) (ctx : ResolutionContext) :
    Cached (List MethodRequest) :=
  match kind with
  | .requestParameter => res.requestParameter ctx
  | .serviceDefinition => res.serviceDefinition ctx
  | .roleRule => res.roleRule ctx
  | .principalAttribute => res.principalAttributeRequests ctx

end Resolution

end StepUp
