import Mathlib.Data.List.Nodup
import StepUp.Engine.Service
import StepUp.Proofs.Resolution.Cached

/-!
# Runs

A run begins an attempt and goes on with calls on it, in any order and with any arguments.  A call
that fails belongs to the run as well: what it leaves of the attempt is what the next call finds.
Between two calls the service may work on other attempts, so every call finds some cache of its own.
Everything here holds for any dialect of patterns; the small service at the end has the one at hand.
-/

namespace StepUp

open Cached

theorem nodup_of_sharedSource? (before : List ResolverKind) {kinds : List ResolverKind}
    (h : sharedSource? before kinds = none) (hbefore : (before.map (·.source)).Nodup) :
    ((before ++ kinds).map (·.source)).Nodup := by
  induction kinds generalizing before with
  | nil => simpa using hbefore
  | cons kind rest ih =>
      unfold sharedSource? at h
      split at h
      next => cases h
      next hnew =>
          have hfresh : kind.source ∉ before.map (·.source) := by simpa using hnew
          have hgrown : ((before ++ [kind]).map (·.source)).Nodup := by
            rw [List.map_append, List.map_singleton, ← List.concat_eq_append]
            exact hbefore.concat hfresh
          simpa using ih _ h hgrown

namespace Service

section

variable [Regex.Dialect]

/-! ## Services that were built -/

/-- The service was built from settings, and no other way to rank was installed. -/
def Built (s : Service) : Prop :=
  ∃ settings file sessions services c,
    answer (build settings file sessions services) c = .ok s

theorem built_of_ofSettings {s : Service} {settings : Settings} {file : Option String}
    {sessions : String → Option Authentication} {c : PatternCache}
    (h : answer (ofSettings settings file sessions) c = .ok s) : s.Built :=
  ⟨settings, file, sessions, _, c, h⟩

/-- A service that was built ranks by the registry that its resolvers ask, and its resolvers passed
the check for shared sources. -/
theorem Built.assembled {s : Service} (h : s.Built) :
    s.strategy = (Ranking.mk s.registry).strategy ∧
      sharedSource? [] s.aggregator.kinds = none := by
  obtain ⟨settings, file, sessions, services, c, h⟩ := h
  unfold build at h
  obtain ⟨reg, -, h⟩ := answer_bind_eq_ok.1 h
  obtain ⟨translator, -, h⟩ := answer_bind_eq_ok.1 h
  obtain ⟨g, hg, h⟩ := answer_bind_eq_ok.1 h
  rw [answer_liftM] at hg
  cases h
  unfold Aggregator.build at hg
  split at hg
  next => cases hg
  next hshared =>
      cases hg
      exact ⟨rfl, hshared⟩

theorem Built.strategy_eq {s : Service} (h : s.Built) :
    s.strategy = (Ranking.mk s.registry).strategy :=
  h.assembled.1

theorem Built.sources_nodup {s : Service} (h : s.Built) :
    (s.aggregator.kinds.map (·.source)).Nodup := by
  simpa using nodup_of_sharedSource? [] h.assembled.2 (by simp)

theorem Built.covers_eq {s : Service} (h : s.Built) (chain : Chain) (r : MethodRequest) :
    s.covers chain r = (Ranking.mk s.registry).covers chain.satisfiedMethods r.method := by
  unfold covers
  rw [h.strategy_eq]
  rfl

/-! ## Calls and reachable attempts -/

/-- A call on an attempt under way. -/
inductive Call where
  | evaluate (request : LoginRequest)
  | completePrimary (request : LoginRequest) (a : Authentication) (credential : Option Credential)
  | completeMethod (a : Authentication) (credential : Option Credential)

/-- The attempt as a call leaves it, whether the call succeeds or not. -/
def after (s : Service) (x : Attempt) (c : PatternCache) : Call → Attempt
  | .evaluate q => (s.evaluate x q).2
  | .completePrimary q a credential => (s.completePrimary x q a credential c).1.2
  | .completeMethod a credential => (s.completeMethod x a credential).2

/-- The attempts that runs reach which begin with a request. -/
inductive Reachable (s : Service) (q : LoginRequest) : Attempt → Prop
  | begin {c : PatternCache} {x : Attempt} : answer (s.begin q) c = .ok x → Reachable s q x
  | call {x : Attempt} (call : Call) (c : PatternCache) :
      Reachable s q x → Reachable s q (s.after x c call)

/-- An attempt leads to another through calls in a row, any number of them. -/
inductive Leads (s : Service) (x : Attempt) : Attempt → Prop
  | refl : Leads s x x
  | call {y : Attempt} (call : Call) (c : PatternCache) :
      Leads s x y → Leads s x (s.after y c call)

/-- What a run reaches, the attempt leads to with which the run begins. -/
theorem Reachable.exists_begun {s : Service} {q : LoginRequest} {x : Attempt}
    (h : s.Reachable q x) : ∃ c begun, answer (s.begin q) c = .ok begun ∧ s.Leads begun x := by
  induction h with
  | begin hbegin => exact ⟨_, _, hbegin, .refl⟩
  | call call c _ ih =>
      obtain ⟨c', begun, hbegin, hleads⟩ := ih
      exact ⟨c', begun, hbegin, .call call c hleads⟩

/-- A login: the attempt that beginning, evaluating and the primary step lead to, all with one
request, when each of them succeeds. -/
def Login (s : Service) (q : LoginRequest) (a : Authentication) (credential : Option Credential)
    (x : Attempt) : Prop :=
  ∃ c begun decision evaluated c' outcome, answer (s.begin q) c = .ok begun ∧
    s.evaluate begun q = (.ok decision, evaluated) ∧
    (s.completePrimary evaluated q a credential c').1 = (.ok outcome, x)

theorem Login.reachable {s : Service} {q : LoginRequest} {a : Authentication}
    {credential : Option Credential} {x : Attempt} (h : s.Login q a credential x) :
    s.Reachable q x := by
  obtain ⟨c, begun, d, evaluated, c', o, hbegin, heval, hprimary⟩ := h
  have hevaluated : s.Reachable q evaluated := by
    have hcall := Reachable.call (.evaluate q) c (.begin hbegin)
    simpa [after, heval] using hcall
  have hcall := Reachable.call (.completePrimary q a credential) c' hevaluated
  simpa [after, hprimary] using hcall

end

/-! ## A small service

Three methods are registered, the last under a blank name, and one application requires the
strongest of them. -/

/-- The settings of the small service. -/
def smallSettings : Settings where
  methods := [⟨"duo", 1⟩, ⟨"otp", 2⟩, ⟨"", 3⟩]
  services := [{ id := "app", authnMethod := some "duo" }]

/-- The registry of the small service. -/
def smallRegistry : Registry :=
  ⟨smallSettings.methods, by decide⟩

/-- A service without sessions, for the small settings. -/
def small : Service where
  aggregator := {
    resolution := {
      registry := smallRegistry
      translator := .passthrough
      principalAttribute := smallSettings.principalAttribute
      defaultMethod := smallSettings.defaultMethod }
    kinds := smallSettings.resolvers }
  strategy := (Ranking.mk smallRegistry).strategy
  sessions := fun _ => none
  services := (Directory.ofList smallSettings.services).find?

theorem small_built : small.Built :=
  built_of_ofSettings (show answer (ofSettings smallSettings none fun _ => none) .empty = .ok small
    from rfl)

/-- The small service with a session that brings an authentication. -/
def smallWithSession (a : Authentication) : Service :=
  { small with sessions := fun id => if id = "TGT-1" then some a else none }

theorem smallWithSession_built (a : Authentication) : (smallWithSession a).Built :=
  built_of_ofSettings (show answer (ofSettings smallSettings none
    fun id => if id = "TGT-1" then some a else none) .empty = .ok (smallWithSession a) from rfl)

/-- A login to the application of the small service. -/
def smallRequest : LoginRequest :=
  { serviceId := "app" }

/-- An authentication of one principal, which records what a value holds as satisfied. -/
def aliceWith (methods : Json) : Authentication :=
  { principal := ⟨"alice", .empty⟩, attributes := Attributes.empty.insert "authn_method" methods }

/-- An authentication of a principal that demands a method. -/
def demandedOf (method : String) : Authentication :=
  { principal := ⟨"alice", Attributes.empty.insert "authn_method" (.str method)⟩ }

/-- The attempt with which a login to the application begins. -/
def smallAttempt : Attempt :=
  .start (some (.ofRequest ⟨"duo", "app", .serviceDefinition⟩)) none

theorem reachable_smallAttempt : small.Reachable smallRequest smallAttempt :=
  .begin (show answer (small.begin smallRequest) .empty = .ok smallAttempt from rfl)

/-- The attempt after a primary login that satisfies the weaker of two methods. -/
def afterOtp : Attempt :=
  small.after smallAttempt .empty (.completePrimary smallRequest (aliceWith (.str "otp")) none)

theorem reachable_afterOtp : small.Reachable smallRequest afterOtp :=
  .call _ _ reachable_smallAttempt

end Service

end StepUp
