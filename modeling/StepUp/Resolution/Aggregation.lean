import StepUp.Method.Ranking
import StepUp.Resolution.Resolver

/-!
# Aggregation

The resolvers of a service are asked in their order, and the strongest request of each goes into
one transaction.  No two resolvers may share a source, since a transaction could not hold the
requests of both.
-/

namespace StepUp

variable [Regex.Dialect]

/-- The first two resolvers in a list that share a source: the earlier and the later one. -/
def sharedSource? (before : List ResolverKind) : List ResolverKind →
    Option (ResolverKind × ResolverKind)
  | [] => none
  | kind :: rest =>
    match before.find? fun k => k.source == kind.source with
    | some other => some (other, kind)
    | none => sharedSource? (before ++ [kind]) rest

/-- The resolvers of a service in the order in which they are asked. -/
structure Aggregator where
  resolution : Resolution
  kinds : List ResolverKind

namespace Aggregator

/-- The aggregator of some resolvers; no two of them may share a source. -/
def build (resolution : Resolution) (kinds : List ResolverKind) :
    Except ServiceError Aggregator :=
  match sharedSource? [] kinds with
  | some (first, second) => .error (.invalidConfig (.sharedSource first second))
  | none => .ok { resolution, kinds }

/-- The strongest request of one resolver. -/
def strongestOf (g : Aggregator) (ctx : ResolutionContext) (kind : ResolverKind) :
    Cached (Option MethodRequest) := do
  g.resolution.registry.strongest (← g.resolution.resolve kind ctx)

/-- The transaction with the requests of some resolvers added, one for each that proposes any. -/
def gather (g : Aggregator) (ctx : ResolutionContext) (t : Option Transaction) :
    List ResolverKind → Cached (Option Transaction)
  | [] => return t
  | kind :: rest => do
    match ← g.strongestOf ctx kind with
    | none => g.gather ctx t rest
    | some r =>
      match (t.getD { target := ctx.request.serviceId }).add r with
      | .ok t => g.gather ctx (some t) rest
      | .error e => throw (.rejected e)

/-- The transaction of all resolvers, or `none` when nobody proposes anything.  The authentication
in the context, if there is one, becomes its primary authentication. -/
def aggregate (g : Aggregator) (ctx : ResolutionContext) : Cached (Option Transaction) := do
  match ← g.gather ctx none g.kinds with
  | none => return none
  | some t =>
    match ctx.authentication with
    | none => return some t
    | some a => return some (t.setPrimary a)

/-- The strongest requests of some resolvers, one of each that proposes any. -/
def proposals (g : Aggregator) (ctx : ResolutionContext) :
    List ResolverKind → Cached (List MethodRequest)
  | [] => return []
  | kind :: rest => do
    let found ← g.strongestOf ctx kind
    let more ← g.proposals ctx rest
    return found.toList ++ more

/-- The strongest request of the resolvers that read the principal. -/
def resolvePrincipal (g : Aggregator) (ctx : ResolutionContext) :
    Cached (Option MethodRequest) := do
  let found ← g.proposals ctx (g.kinds.filter fun k => k.source == .principalAttribute)
  g.resolution.registry.strongest found

end Aggregator

end StepUp
