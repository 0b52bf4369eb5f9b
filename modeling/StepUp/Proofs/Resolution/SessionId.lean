import StepUp.Resolution.Aggregation

/-!
# The session id

The session id of a request serves to find the authentication of the session.  No resolver reads the
id itself, so two requests that differ in it only are answered alike in the same context.
-/

namespace StepUp

variable [Regex.Dialect]

/-- The context with another session id in its request. -/
def ResolutionContext.withSession (ctx : ResolutionContext) (id : Option String) :
    ResolutionContext :=
  { ctx with request := { ctx.request with sessionId := id } }

theorem Resolution.attributeRequests_withSession (res : Resolution) (ctx : ResolutionContext)
    (id : Option String) (values : List String) :
    res.attributeRequests (ctx.withSession id) values = res.attributeRequests ctx values := by
  induction values with
  | nil => rfl
  | cons value rest ih =>
      unfold attributeRequests
      rw [ih]
      rfl

/-- No resolver looks at the session id of a request; a session counts only by its
authentication. -/
theorem Resolution.resolve_withSession (res : Resolution) (kind : ResolverKind)
    (ctx : ResolutionContext) (id : Option String) :
    res.resolve kind (ctx.withSession id) = res.resolve kind ctx := by
  have hattribute : res.principalAttributeRequests (ctx.withSession id) =
      res.principalAttributeRequests ctx := by
    unfold principalAttributeRequests
    simp only [attributeRequests_withSession]
    rfl
  cases kind with
  | requestParameter => rfl
  | serviceDefinition => rfl
  | roleRule =>
      unfold resolve roleRule
      rw [hattribute]
      rfl
  | principalAttribute => exact hattribute

namespace Aggregator

variable (g : Aggregator) (ctx : ResolutionContext) (id : Option String)

theorem strongestOf_withSession (kind : ResolverKind) :
    g.strongestOf (ctx.withSession id) kind = g.strongestOf ctx kind := by
  unfold strongestOf
  rw [Resolution.resolve_withSession]

theorem gather_withSession (kinds : List ResolverKind) (t : Option Transaction) :
    g.gather (ctx.withSession id) t kinds = g.gather ctx t kinds := by
  induction kinds generalizing t with
  | nil => rfl
  | cons kind rest ih =>
      unfold gather
      simp only [strongestOf_withSession, ih]
      rfl

theorem aggregate_withSession : g.aggregate (ctx.withSession id) = g.aggregate ctx := by
  unfold aggregate
  rw [gather_withSession]
  rfl

theorem proposals_withSession (kinds : List ResolverKind) :
    g.proposals (ctx.withSession id) kinds = g.proposals ctx kinds := by
  induction kinds with
  | nil => rfl
  | cons kind rest ih =>
      unfold proposals
      rw [strongestOf_withSession, ih]

theorem resolvePrincipal_withSession :
    g.resolvePrincipal (ctx.withSession id) = g.resolvePrincipal ctx := by
  unfold resolvePrincipal
  rw [proposals_withSession]

end Aggregator

end StepUp
