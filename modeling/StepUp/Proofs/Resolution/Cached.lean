import StepUp.Resolution.Aggregation

/-!
# Answers and the cache

A computation that may use the cache of patterns has an answer and leaves a cache behind.  This file
shows that the answers of resolvers, and of everything above them, do not depend on the cache that
is found (`Cached.Steady`): a cache holds nothing but what compiling would give again, so it only
saves work.

`Cached.answer_bind` takes an answer apart into the answers of its parts.  All statements about
resolution are made about answers, and with the steadiness of the parts the cache can be forgotten.

Steadiness is not the only property that resolvers take over from the few steps they are made of.
So they are walked through once, for every such property (`Cached.Stepwise`).
-/

namespace StepUp

variable [Regex.Dialect]

namespace Cached

variable {α β : Type}

/-- What a computation answers when it finds a cache. -/
def answer (x : Cached α) (c : PatternCache) : Except ServiceError α :=
  (x c).1

/-- The cache that a computation leaves. -/
def leaves (x : Cached α) (c : PatternCache) : PatternCache :=
  (x c).2

/-- The answer does not depend on the cache. -/
def Steady (x : Cached α) : Prop :=
  ∀ c c', answer x c = answer x c'

/-- A computation in two parts hands on what the first part gives, and the cache it leaves. -/
theorem run_bind (x : StateM PatternCache α) (f : α → StateM PatternCache β) (c : PatternCache) :
    (x >>= f) c = f (x c).1 (x c).2 :=
  rfl

theorem bind_apply (x : Cached α) (f : α → Cached β) (c : PatternCache) :
    (x >>= f) c = ExceptT.bindCont f (answer x c) (leaves x c) :=
  rfl

theorem answer_bind (x : Cached α) (f : α → Cached β) (c : PatternCache) :
    answer (x >>= f) c = match answer x c with
      | .ok a => answer (f a) (leaves x c)
      | .error e => .error e := by
  rw [answer, bind_apply]
  cases answer x c <;> rfl

theorem leaves_bind (x : Cached α) (f : α → Cached β) (c : PatternCache) :
    leaves (x >>= f) c = match answer x c with
      | .ok a => leaves (f a) (leaves x c)
      | .error _ => leaves x c := by
  rw [leaves, bind_apply]
  cases answer x c <;> rfl

@[simp] theorem answer_pure (a : α) (c : PatternCache) : answer (pure a) c = .ok a :=
  rfl

@[simp] theorem answer_liftM (r : Except ServiceError α) (c : PatternCache) :
    answer (liftM r : Cached α) c = r := by
  cases r <;> rfl

theorem leaves_liftM (r : Except ServiceError α) (c : PatternCache) :
    leaves (liftM r : Cached α) c = c := by
  cases r <;> rfl

/-- A computation succeeds through both of its parts. -/
theorem answer_bind_eq_ok {x : Cached α} {f : α → Cached β} {c : PatternCache} {b : β} :
    answer (x >>= f) c = .ok b ↔
      ∃ a, answer x c = .ok a ∧ answer (f a) (leaves x c) = .ok b := by
  rw [answer_bind]
  cases answer x c <;> simp

theorem steady_pure (a : α) : Steady (pure a) :=
  fun _ _ => rfl

theorem steady_throw (e : ServiceError) : Steady (throw e : Cached α) :=
  fun _ _ => rfl

theorem steady_liftM (r : Except ServiceError α) : Steady (liftM r : Cached α) :=
  fun c c' => by rw [answer_liftM, answer_liftM]

theorem steady_bind {x : Cached α} {f : α → Cached β} (hx : Steady x) (hf : ∀ a, Steady (f a)) :
    Steady (x >>= f) := by
  intro c c'
  rw [answer_bind, answer_bind, hx c c']
  cases answer x c' with
  | ok a => exact hf a _ _
  | error e => rfl

end Cached

open Cached

/-! ## Patterns -/

/-- Every cache answers what compiling answers. -/
theorem answer_compiledPattern (pattern : String) (c : PatternCache) :
    answer (compiledPattern pattern) c =
      (compileAnchored pattern).mapError fun fault => .invalidPattern pattern fault.message := by
  unfold answer compiledPattern
  split
  next e hfound =>
      have hsound := c.sound e (List.mem_of_find?_eq_some hfound)
      have hkey : e.1 = pattern := by simpa using List.find?_some hfound
      rw [hkey] at hsound
      rw [hsound]
      rfl
  next =>
      split
      next r hr =>
          dsimp only
          rw [hr]
          rfl
      next fault hfault =>
          dsimp only
          rw [hfault]
          rfl

theorem steady_compiledPattern (pattern : String) : Steady (compiledPattern pattern) :=
  fun c c' => by rw [answer_compiledPattern, answer_compiledPattern]

/-! ## Properties of all resolvers -/

/-- A property that computations take over from the parts they are made of, and that the parts have
of which resolvers are made: compiling a pattern, looking a method up, ranking requests, and
refusing a value that stands for no method. -/
structure Cached.Stepwise (P : {α : Type} → Cached α → Prop) : Prop where
  pure : ∀ {α : Type} (a : α), P (Pure.pure a : Cached α)
  bind : ∀ {α β : Type} {x : Cached α} {f : α → Cached β}, P x → (∀ a, P (f a)) → P (x >>= f)
  compiled : ∀ pattern, P (compiledPattern pattern)
  required : ∀ (reg : Registry) (name : String), P (liftM (reg.require name) : Cached Method)
  ranked : ∀ (reg : Registry) (l : List MethodRequest),
    P (liftM (reg.strongest l) : Cached (Option MethodRequest))
  unrecognized : ∀ {α : Type} (value serviceId : String),
    P (throw (.unrecognizedMethod value serviceId) : Cached α)

theorem Cached.steady_stepwise : Stepwise fun x => Steady x where
  pure := steady_pure
  bind := steady_bind
  compiled := steady_compiledPattern
  required := fun _ _ => steady_liftM _
  ranked := fun _ _ => steady_liftM _
  unrecognized := fun _ _ => steady_throw _

namespace Cached.Stepwise

variable {P : {α : Type} → Cached α → Prop} (h : Stepwise P)

include h

/-! ### Translators -/

theorem compileAll (patterns : List String) : P (Translator.compileAll patterns) := by
  induction patterns with
  | nil => exact h.pure _
  | cons p rest ih => exact h.bind (h.compiled p) fun _ => ih

theorem build (settings : TranslatorSettings) : P (Translator.build settings) :=
  h.bind (h.compileAll _) fun _ => h.pure _

theorem fullMatch (pattern value : String) : P (StepUp.fullMatch pattern value) :=
  h.bind (h.compiled pattern) fun _ => h.pure _

theorem firstMatch (value : String) (mappings : List RegexMapping) :
    P (Translator.firstMatch value mappings) := by
  induction mappings with
  | nil => exact h.pure _
  | cons m rest ih =>
      refine h.bind (h.fullMatch m.pattern value) fun hit => ?_
      cases hit with
      | true => exact h.pure _
      | false => exact ih

theorem translate (t : Translator) (serviceId value : String) :
    P (t.translate serviceId value) := by
  unfold Translator.translate
  split
  · exact h.pure _
  · split
    · exact h.pure _
    · split
      · exact h.pure _
      · exact h.unrecognized _ _
  · refine h.bind (h.firstMatch value _) fun found => ?_
    split
    · exact h.pure _
    · split
      · exact h.pure _
      · exact h.unrecognized _ _

/-! ### Resolvers -/

section Resolvers

variable (res : Resolution) (ctx : ResolutionContext)

/-- A method that is found, if any, has to be registered. -/
theorem found (source : MethodSource) (method : Option String) :
    P (match method with
      | none => Pure.pure []
      | some method => res.requireMethod ctx source method) := by
  cases method with
  | none => exact h.pure _
  | some method => exact h.bind (h.required _ _) fun _ => h.pure _

theorem requestParameter : P (res.requestParameter ctx) := by
  unfold Resolution.requestParameter
  split
  · exact h.pure _
  · exact h.bind (h.translate _ _ _) fun method => h.found res ctx _ method

theorem serviceDefinition : P (res.serviceDefinition ctx) := by
  unfold Resolution.serviceDefinition
  split
  · exact h.pure _
  · split
    · exact h.pure _
    · split
      · exact h.bind (h.translate _ _ _) fun method => h.found res ctx _ method
      · exact h.bind (h.pure _) fun method => h.found res ctx _ method

theorem attributeRequests (values : List String) : P (res.attributeRequests ctx values) := by
  induction values with
  | nil => exact h.pure _
  | cons value rest ih =>
      refine h.bind (h.translate _ _ _) fun method => ?_
      refine h.bind ih fun more => ?_
      split
      · split <;> exact h.pure _
      · exact h.pure _

theorem principalAttributeRequests : P (res.principalAttributeRequests ctx) := by
  unfold Resolution.principalAttributeRequests
  split
  · exact h.pure _
  · exact h.attributeRequests res ctx _

theorem matching (pattern : String) (candidates : List String) :
    P (Resolution.matching pattern candidates) := by
  induction candidates with
  | nil => exact h.pure _
  | cons candidate rest ih =>
      refine h.bind (h.fullMatch pattern candidate) fun hit => ?_
      exact h.bind ih fun more => h.pure _

theorem roleRule : P (res.roleRule ctx) := by
  have hrequests : P (res.roleRequests ctx) := by
    unfold Resolution.roleRequests
    split
    · exact h.pure _
    · exact h.bind (h.matching _ _) fun _ => h.pure _
  refine h.bind hrequests fun requests => ?_
  cases requests with
  | nil => exact h.principalAttributeRequests res ctx
  | cons r rest => exact h.pure _

theorem resolve (kind : ResolverKind) : P (res.resolve kind ctx) := by
  cases kind with
  | requestParameter => exact h.requestParameter res ctx
  | serviceDefinition => exact h.serviceDefinition res ctx
  | roleRule => exact h.roleRule res ctx
  | principalAttribute => exact h.principalAttributeRequests res ctx

end Resolvers

/-! ### Proposals -/

section Proposals

variable (g : Aggregator) (ctx : ResolutionContext)

theorem strongestOf (kind : ResolverKind) : P (g.strongestOf ctx kind) :=
  h.bind (h.resolve g.resolution ctx kind) fun _ => h.ranked _ _

theorem proposals (kinds : List ResolverKind) : P (g.proposals ctx kinds) := by
  induction kinds with
  | nil => exact h.pure _
  | cons kind rest ih =>
      refine h.bind (h.strongestOf g ctx kind) fun found => ?_
      exact h.bind ih fun more => h.pure _

theorem resolvePrincipal : P (g.resolvePrincipal ctx) :=
  h.bind (h.proposals g ctx _) fun _ => h.ranked _ _

end Proposals

end Cached.Stepwise

/-! ## Aggregation -/

namespace Aggregator

variable (g : Aggregator) (ctx : ResolutionContext)

theorem steady_strongestOf (kind : ResolverKind) : Steady (g.strongestOf ctx kind) :=
  steady_stepwise.strongestOf g ctx kind

theorem steady_gather (kinds : List ResolverKind) (t : Option Transaction) :
    Steady (g.gather ctx t kinds) := by
  induction kinds generalizing t with
  | nil => exact steady_pure _
  | cons kind rest ih =>
      refine steady_bind (g.steady_strongestOf ctx kind) fun found => ?_
      cases found with
      | none => exact ih t
      | some r =>
          dsimp only
          split
          · exact ih _
          · exact steady_throw _

theorem steady_aggregate : Steady (g.aggregate ctx) := by
  refine steady_bind (g.steady_gather ctx g.kinds none) fun t => ?_
  cases t with
  | none => exact steady_pure _
  | some t => cases ctx.authentication <;> exact steady_pure _

theorem steady_proposals (kinds : List ResolverKind) : Steady (g.proposals ctx kinds) :=
  steady_stepwise.proposals g ctx kinds

theorem steady_resolvePrincipal : Steady (g.resolvePrincipal ctx) :=
  steady_stepwise.resolvePrincipal g ctx

end Aggregator

end StepUp
