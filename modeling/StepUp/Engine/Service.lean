import StepUp.Engine.Escalation
import StepUp.Engine.Validation
import StepUp.Login.Attempt
import StepUp.Login.Composite
import StepUp.Login.Directory
import StepUp.Resolution.Aggregation

/-!
# The service

The operations by which the flow engine drives an attempt: begin it, ask for the decision, chain
the primary login and the selected method, and finish.  An operation gives its result together with
the attempt as it leaves it, also when it fails, so that what a failure has changed can be seen.
-/

namespace StepUp

variable [Regex.Dialect]

/-- The source of the credential of the primary login. -/
def primarySource : String := "primary"

/-- A service: its resolvers, its way to rank, and the read access of its host to sessions and to
target services. -/
structure Service where
  aggregator : Aggregator
  strategy : Strategy
  sessions : String → Option Authentication
  services : String → Option RegisteredService

namespace Service

/-! ## Building -/

/-- The service of some settings for given sessions and services.  The registry is assembled first,
then the patterns of the translator are compiled, then the resolvers are put together. -/
def build (settings : Settings) (methodsFile : Option String)
    (sessions : String → Option Authentication) (services : String → Option RegisteredService) :
    Cached Service := do
  let registry ← Registry.ofSettings settings methodsFile
  let translator ← Translator.build settings.translator
  let resolution : Resolution := {
    registry, translator
    principalAttribute := settings.principalAttribute
    defaultMethod := settings.defaultMethod }
  let aggregator ← Aggregator.build resolution settings.resolvers
  return { aggregator, strategy := (Ranking.mk registry).strategy, sessions, services }

/-- The service of some settings that knows the target services of the settings. -/
def ofSettings (settings : Settings) (methodsFile : Option String)
    (sessions : String → Option Authentication) : Cached Service :=
  build settings methodsFile sessions (Directory.ofList settings.services).find?

/-- The service with another way to rank. -/
def withStrategy (s : Service) (strategy : Strategy) : Service :=
  { s with strategy }

/-- The service with the ranks of another registry. -/
def withRanking (s : Service) (ranking : Ranking) : Service :=
  s.withStrategy ranking.strategy

/-- The registry of the service. -/
def registry (s : Service) : Registry :=
  s.aggregator.resolution.registry

/-! ## Beginning -/

/-- The context of a request with an authentication. -/
def context (s : Service) (request : LoginRequest) (a : Option Authentication) :
    ResolutionContext :=
  { request, authentication := a, service := s.services request.serviceId }

/-- The authentication of the session that a request comes with. -/
def sessionOf (s : Service) (request : LoginRequest) : Option Authentication :=
  request.session?.bind s.sessions

/-- A new attempt with the requests of all resolvers. -/
def begin (s : Service) (request : LoginRequest) : Cached Attempt := do
  let session := s.sessionOf request
  return .start (← s.aggregator.aggregate (s.context request session)) session

/-! ## Deciding -/

/-- What the decision on an attempt looks at when a request asks for it. -/
def escalationInput (attempt : Attempt) (request : LoginRequest) : EscalationInput where
  transaction := attempt.transaction
  hasSession := request.session?.isSome
  session := attempt.session
  renew := request.renew

/-- The decision on an attempt, recorded in it.  A required method is selected, and a session that
has to step up begins the chain. -/
def evaluate (s : Service) (attempt : Attempt) (request : LoginRequest) :
    Except ServiceError Decision × Attempt :=
  match s.strategy.decide (escalationInput attempt request) with
  | .error e => (.error e, attempt)
  | .ok .continueNormally => (.ok .continueNormally, { attempt with state := .continueNormally })
  | .ok (.requireMethod r) =>
    let selected := attempt.select r
    match selected.chain.isEmpty, selected.session with
    | true, some session =>
      match selected.chain.append session none with
      | .error e => (.error (.rejected e), selected)
      | .ok chain => (.ok (.requireMethod r), { selected with chain })
    | _, _ => (.ok (.requireMethod r), selected)

/-! ## Chaining steps -/

/-- Whether the methods of a chain cover the selected one. -/
def covers (s : Service) (chain : Chain) (selected : MethodRequest) : Except ServiceError Bool :=
  s.strategy.covers chain.satisfiedMethods selected.method

/-- What is left to do: the selected method, unless the chain covers it. -/
def outcome (s : Service) (attempt : Attempt) : Except ServiceError Outcome :=
  match attempt.selected with
  | none => .ok .completed
  | some r =>
    match s.covers attempt.chain r with
    | .error e => .error e
    | .ok covered => .ok (if covered then .completed else .requireMethod r)

/-- The transaction with a request that was found after the primary login. -/
def stage (current : Option Transaction) (r : MethodRequest) : Except FlowError Transaction :=
  match current with
  | none => .ok (.ofRequest r)
  | some t => t.add r

/-- The attempt with a staged transaction installed and the authentication recorded as the primary
one, unless there is one. -/
def installed (attempt : Attempt) (staged : Option Transaction) (a : Authentication) : Attempt :=
  let attempt := match staged with
    | some t => attempt.setTransaction t
    | none => attempt
  match attempt.transaction with
  | none => attempt
  | some t =>
    if t.primary.isSome then attempt else { attempt with transaction := some (t.setPrimary a) }

/-- The attempt with the strongest request of its transaction selected, unless a request is. -/
def selectStrongest (s : Service) (attempt : Attempt) : Except ServiceError Attempt :=
  match attempt.selected, attempt.transaction with
  | none, some t =>
    match s.strategy.highest t with
    | .error e => .error e
    | .ok none => .ok attempt
    | .ok (some r) => .ok (attempt.select r)
  | _, _ => .ok attempt

/-- The attempt with the authentication of a primary login chained.  The request that was found for
the principal is staged first, so that nothing is chained where it does not fit. -/
def chainPrimary (attempt : Attempt) (found : Option MethodRequest) (a : Authentication)
    (credential : Option Credential) : Except FlowError Attempt :=
  match found.mapM (stage attempt.transaction) with
  | .error e => .error e
  | .ok staged =>
    match attempt.chain.append a (credential.map (primarySource, ·)) with
    | .error e => .error e
    | .ok chain => .ok (installed { attempt with chain } staged a)

/-- The outcome of an attempt, and the attempt with its strongest request selected. -/
def settle (s : Service) (attempt : Attempt) : Except ServiceError Outcome × Attempt :=
  match s.selectStrongest attempt with
  | .error e => (.error e, attempt)
  | .ok selected => (s.outcome selected, selected)

/-- The primary step after the principal was looked at: the authentication is chained together with
the request found, and the strongest request selected. -/
def primaryStep (s : Service) (attempt : Attempt) (found : Option MethodRequest)
    (a : Authentication) (credential : Option Credential) :
    Except ServiceError Outcome × Attempt :=
  match chainPrimary attempt found a credential with
  | .error e => (.error (.rejected e), attempt)
  | .ok chained => s.settle chained

/-- What the resolvers that read the principal demand of an authentication; they are asked only
while nothing is selected. -/
def principalDemand (s : Service) (attempt : Attempt) (request : LoginRequest)
    (a : Authentication) : Cached (Option MethodRequest) :=
  if attempt.selected.isSome then return none
  else s.aggregator.resolvePrincipal (s.context request (some a))

/-- Chains the authentication of the primary login. -/
def completePrimary (s : Service) (attempt : Attempt) (request : LoginRequest)
    (a : Authentication) (credential : Option Credential) :
    StateM PatternCache (Except ServiceError Outcome × Attempt) := do
  match ← (s.principalDemand attempt request a).run with
  | .error e => return (.error e, attempt)
  | .ok found => return s.primaryStep attempt found a credential

/-- Chains the authentication of the selected method, which records the method. -/
def completeMethod (s : Service) (attempt : Attempt) (a : Authentication)
    (credential : Option Credential) : Except ServiceError Outcome × Attempt :=
  match attempt.selected with
  | none => (.error (.rejected .noMethodSelected), attempt)
  | some r =>
    let recorded := a.setAttribute authnMethodAttribute (.str r.method)
    match attempt.chain.append recorded (credential.map (r.method, ·)) with
    | .error e => (.error (.rejected e), attempt)
    | .ok chain =>
      let chained := { attempt with chain }
      (s.outcome chained, chained)

/-! ## Finishing -/

/-- The requirement on the composite: the selected method, unless the chain covers it. -/
def requirement (s : Service) (attempt : Attempt) : Except ServiceError Validation :=
  match attempt.selected with
  | none => .ok (.ofMethod none)
  | some r =>
    match s.covers attempt.chain r with
    | .error e => .error e
    | .ok true => .ok (.ofMethod none)
    | .ok false => .ok { Validation.ofMethod (some r.method) with serviceId := some r.target }

/-- The composite authentication of the attempt, made at an instant and validated. -/
def finish (s : Service) (attempt : Attempt) (now : Time.Timestamp) :
    Except ServiceError Authentication :=
  match attempt.chain.compose now with
  | .error e => .error (.rejected e)
  | .ok composite =>
    let a := composite.toAuthentication
    match s.requirement attempt with
    | .error e => .error e
    | .ok v =>
      match v.check [a] with
      | .error e => .error e
      | .ok true => .ok a
      | .ok false => .error (.validationFailed "composite authentication was rejected")

end Service

end StepUp
