import StepUp.Proofs.Resolution.FullMatch

/-!
# Role rules

A role rule demands the method of a service of the principals with a certain attribute.  Where it
demands nothing the principal's attribute for methods decides instead.  There are many ways for a
rule to demand nothing, and they all end in the same fallback
(`Resolution.roleRule_settles_or_falls_back`).

* `Resolution.Settles` lists the two cases in which the rule settles the matter: its pattern does
  not compile although there is something to compare it with, or it matches and the method is
  registered.
* A pattern that does not compile goes unnoticed where nothing is compared
  (`Resolution.answer_matching_of_error` needs a candidate).
* The fallback finds the cache that the rule has left.  Answers do not depend on it, so the result
  is that of the principal's attribute with any cache.
-/

namespace StepUp.Resolution

open Cached

section

variable {res : Resolution} {ctx : ResolutionContext} {pattern : String}
  {candidates : List String} {requests : List MethodRequest}

/-! ## When a rule applies -/

/-- There are an authentication and a service with a method and a complete rule, and the principal
has the attribute of the rule. -/
def RuleApplies (ctx : ResolutionContext) (method pattern : String) (value : Json) : Prop :=
  ∃ authentication service name, ctx.authentication = some authentication ∧
    ctx.service = some service ∧ service.authnMethod = some method ∧
    service.roleRule = some ⟨some name, some pattern⟩ ∧
    authentication.principal.attributes.get? name = some value

theorem roleDemand?_of_applies {method : String} {value : Json}
    (h : RuleApplies ctx method pattern value) :
    roleDemand? ctx = some ⟨method, pattern, value.texts⟩ := by
  obtain ⟨authentication, service, name, ha, hs, hmethod, hrule, hvalue⟩ := h
  simp [roleDemand?, ha, hs, hmethod, hrule, hvalue]

theorem applies_of_roleDemand? {d : RoleDemand} (h : roleDemand? ctx = some d) :
    ∃ value, RuleApplies ctx d.method d.pattern value ∧ d.candidates = value.texts := by
  simp only [roleDemand?, Option.bind_eq_bind, Option.bind_eq_some_iff, Option.pure_def,
    Option.some.injEq] at h
  obtain ⟨a, ha, s, hs, ⟨name?, pattern?⟩, hrule, method, hmethod, name, hname, pattern, hpattern,
    value, hvalue, rfl⟩ := h
  dsimp only at hname hpattern
  subst hname hpattern
  exact ⟨value, ⟨a, s, name, ha, hs, hmethod, hrule, hvalue⟩, rfl⟩

/-! ## Matching the candidates -/

variable [Regex.Dialect] {c : PatternCache}

theorem answer_matching_of_ok {r : Regex} (h : compileAnchored pattern = .ok r) :
    answer (matching pattern candidates) c = .ok (candidates.filter r.isMatch) := by
  induction candidates generalizing c with
  | nil => rfl
  | cons candidate rest ih =>
      rw [matching, answer_bind, answer_fullMatch, h]
      dsimp only
      rw [answer_bind, ih]
      cases hit : r.isMatch candidate <;> simp [hit]

/-- A pattern that does not compile is reported where there is something to compare it with. -/
theorem answer_matching_of_error {fault : Regex.Fault} (h : compileAnchored pattern = .error fault)
    (hne : candidates ≠ []) : answer (matching pattern candidates) c =
      .error (.invalidPattern pattern fault.message) := by
  cases candidates with
  | nil => exact absurd rfl hne
  | cons candidate rest => rw [matching, answer_bind, answer_fullMatch, h]

/-! ## What a rule settles -/

/-- One request for each of some candidates, for the method of the service. -/
def demands (ctx : ResolutionContext) (method : String) (count : Nat) : List MethodRequest :=
  List.replicate count
    { method, target := ctx.request.serviceId, source := .principalAttribute }

/-- The answer of a rule that settles the matter: the error of a pattern which does not compile, or
one request for each text of the attribute that the pattern matches in full. -/
inductive Settles (res : Resolution) (ctx : ResolutionContext) :
    Except ServiceError (List MethodRequest) → Prop
  | invalid {method pattern : String} {value : Json} {fault : Regex.Fault} :
      RuleApplies ctx method pattern value → value.texts ≠ [] →
      compileAnchored pattern = .error fault →
      Settles res ctx (.error (.invalidPattern pattern fault.message))
  | demanded {method pattern : String} {value : Json} {r : Regex} :
      RuleApplies ctx method pattern value → compileAnchored pattern = .ok r →
      res.registry.contains method = true → (∃ text ∈ value.texts, r.isMatch text = true) →
      Settles res ctx (.ok (demands ctx method (value.texts.countP r.isMatch)))

theorem answer_roleRequests (res : Resolution) (ctx : ResolutionContext) (c : PatternCache) :
    answer (res.roleRequests ctx) c = match roleDemand? ctx with
      | none => .ok []
      | some d => (answer (matching d.pattern d.candidates) c).map fun hits =>
        if res.registry.contains d.method then demands ctx d.method hits.length else [] := by
  unfold roleRequests
  cases roleDemand? ctx with
  | none => rfl
  | some d =>
      dsimp only
      rw [answer_bind]
      cases answer (matching d.pattern d.candidates) c with
      | error e => rfl
      | ok hits => simp [Except.map, demands, List.map_const']

/-- A rule that settles the matter answers so. -/
theorem answer_roleRequests_of_settles {a : Except ServiceError (List MethodRequest)}
    (h : res.Settles ctx a) (c : PatternCache) : answer (res.roleRequests ctx) c = a := by
  cases h with
  | invalid happlies hne hfault =>
      rw [answer_roleRequests, roleDemand?_of_applies happlies]
      dsimp only
      rw [answer_matching_of_error hfault hne]
      rfl
  | demanded happlies hr hmethod =>
      rw [answer_roleRequests, roleDemand?_of_applies happlies]
      dsimp only
      rw [answer_matching_of_ok hr]
      simp [Except.map, hmethod, List.countP_eq_length_filter]

/-- A rule that settles nothing demands nothing. -/
theorem answer_roleRequests_of_not_settles (h : ¬ ∃ a, res.Settles ctx a) (c : PatternCache) :
    answer (res.roleRequests ctx) c = .ok [] := by
  rw [answer_roleRequests]
  cases hdemand : roleDemand? ctx with
  | none => rfl
  | some d =>
      obtain ⟨value, happlies, hcandidates⟩ := applies_of_roleDemand? hdemand
      dsimp only
      rw [hcandidates]
      by_cases hnil : value.texts = []
      · rw [hnil]
        simp [matching, Except.map, demands]
      · cases hcompiled : compileAnchored d.pattern with
        | error fault => exact absurd ⟨_, .invalid happlies hnil hcompiled⟩ h
        | ok r =>
            rw [answer_matching_of_ok hcompiled]
            cases hmethod : res.registry.contains d.method with
            | false => rfl
            | true =>
                -- a match would settle the matter
                have hmiss : ∀ text ∈ value.texts, ¬ r.isMatch text = true :=
                  fun text htext hmatch =>
                  h ⟨_, .demanded happlies hcompiled hmethod ⟨text, htext, hmatch⟩⟩
                rw [List.filter_eq_nil_iff.2 hmiss]
                rfl

/-! ## The resolver -/

theorem answer_roleRule (res : Resolution) (ctx : ResolutionContext) (c : PatternCache) :
    answer (res.roleRule ctx) c = match answer (res.roleRequests ctx) c with
      | .ok [] => answer (res.principalAttributeRequests ctx) c
      | a => a := by
  unfold roleRule
  rw [answer_bind]
  cases answer (res.roleRequests ctx) c with
  | error e => rfl
  | ok requests =>
      cases requests with
      | nil => exact steady_stepwise.principalAttributeRequests res ctx _ _
      | cons r rest => rfl

/-- What a rule settles is never the empty list. -/
theorem Settles.ne_nil {a : Except ServiceError (List MethodRequest)} (h : res.Settles ctx a) :
    a ≠ .ok [] := by
  cases h with
  | invalid => nofun
  | demanded happlies hr hmethod hmatch =>
      have hpos := List.countP_pos_iff.2 hmatch
      simp only [demands, ne_eq, Except.ok.injEq, List.replicate_eq_nil_iff]
      omega

/-- A rule that applies settles the matter where its pattern does not compile and there is a text to
compare it with, and where it matches a text and the method of the service is registered: then there
is one request for each text that it matches.  In every other case the resolver answers what the
resolver for the principal's attribute answers, errors included.  No answer depends on the cache. -/
theorem roleRule_settles_or_falls_back (res : Resolution) (ctx : ResolutionContext)
    (c c' : PatternCache) :
    (∀ a, res.Settles ctx a → answer (res.resolve .roleRule ctx) c = a) ∧
    ((¬ ∃ a, res.Settles ctx a) →
      answer (res.resolve .roleRule ctx) c = answer (res.resolve .principalAttribute ctx) c') := by
  constructor
  · intro a h
    change answer (res.roleRule ctx) c = a
    rw [answer_roleRule, answer_roleRequests_of_settles h]
    split
    next => exact absurd rfl h.ne_nil
    next => rfl
  · intro h
    calc answer (res.roleRule ctx) c
        = answer (res.principalAttributeRequests ctx) c := by
          rw [answer_roleRule, answer_roleRequests_of_not_settles h]
      _ = answer (res.principalAttributeRequests ctx) c' :=
          steady_stepwise.principalAttributeRequests res ctx c c'

end

/-- The rule matches two of the roles of one principal and none of the other's, whose attribute for
methods then decides. -/
theorem roleRule_for_staff_and_student :
    let res : Resolution :=
      ⟨⟨[⟨"duo", 1⟩, ⟨"otp", 2⟩], by decide⟩, .passthrough, "authn_method", none⟩
    let service : RegisteredService := ⟨"svc", some "duo", some ⟨some "memberOf", some "st..f"⟩⟩
    let ctx (roles : List Json) : ResolutionContext := {
      request := { serviceId := "svc" }
      service := some service
      authentication := some { principal := {
        id := "alice"
        attributes := .ofMembers [("authn_method", .str "otp"), ("memberOf", .arr roles)] } } }
    let staff := ctx [.str "staff", .int 7, .str "stuff", .str "faculty"]
    let student := ctx [.str "student"]
    res.Settles staff (.ok (demands staff "duo" 2)) ∧
      answer (res.resolve .roleRule staff) .empty = .ok (demands staff "duo" 2) ∧
      (¬ ∃ a, res.Settles student a) ∧
      answer (res.resolve .roleRule student) .empty =
        .ok [⟨"otp", "svc", .principalAttribute⟩] := by
  intro res service ctx staff student
  have happlies : RuleApplies staff "duo" "st..f"
      (.arr [.str "staff", .int 7, .str "stuff", .str "faculty"]) :=
    ⟨_, service, "memberOf", rfl, rfl, rfl, rfl, rfl⟩
  have hcount : (compileAnchored "st..f").map
      (fun r => ["staff", "stuff", "faculty"].countP r.isMatch) = .ok 2 := by
    decide +kernel
  have hstaff : res.Settles staff (.ok (demands staff "duo" 2)) := by
    cases hr : compileAnchored "st..f" with
    | error fault =>
        rw [hr] at hcount
        cases hcount
    | ok r =>
        rw [hr] at hcount
        have htwo : ["staff", "stuff", "faculty"].countP r.isMatch = 2 := Except.ok.inj hcount
        have hmatch : 0 < ["staff", "stuff", "faculty"].countP r.isMatch := by omega
        rw [← htwo]
        exact .demanded happlies hr rfl (List.countP_pos_iff.1 hmatch)
  have hstudent : ¬ ∃ a, res.Settles student a := by
    rintro ⟨a, ha⟩
    have hnothing : answer (res.roleRequests student) .empty = .ok [] := by decide +kernel
    rw [answer_roleRequests_of_settles ha] at hnothing
    exact ha.ne_nil hnothing
  refine ⟨hstaff, (roleRule_settles_or_falls_back res staff .empty .empty).1 _ hstaff, hstudent, ?_⟩
  rw [(roleRule_settles_or_falls_back res student .empty .empty).2 hstudent]
  rfl

end StepUp.Resolution
