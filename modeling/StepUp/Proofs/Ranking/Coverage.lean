import StepUp.Proofs.Ranking.Order

/-!
# Coverage

Whether satisfied methods cover a requested one is found by a walk through their names in code point
order.  The walk stops at the first name that settles the matter: one that is not registered, which
is an error, or one that is at least as strong as the requested method.  So a name that is not
registered goes unnoticed behind a strong one (`Ranking.covers_fails_iff`).

Whoever relies on the answer takes it for one about the whole set (`Ranking.ReportsAll`): an error
where any name is not registered, and otherwise whether any method is strong enough.  That is what
the walk finds unless a strong name masks all names that are not registered (`Registry.Masks`), and
`Ranking.coverage_reported_iff` says that it is wrong in no other case.
-/

namespace StepUp

/-! ## The first name with a property -/

namespace Text.NameSet

theorem eq_or_lt_of_append {s : NameSet} {n k : String} {before after : List String}
    (h : s.names = before ++ n :: after) (hk : k ∈ s) : k ∈ before ∨ k = n ∨ n < k := by
  have hsorted := s.ascending
  rw [h, List.pairwise_append, List.pairwise_cons] at hsorted
  have hmem : k ∈ before ++ n :: after := h ▸ hk
  rcases List.mem_append.1 hmem with hbefore | hrest
  · exact Or.inl hbefore
  · rcases List.mem_cons.1 hrest with rfl | hafter
    · exact Or.inr (Or.inl rfl)
    · exact Or.inr (Or.inr (hsorted.2.1.1 k hafter))

/-- A walk through a set finds the least name with a property. -/
theorem find?_eq_some_iff {s : NameSet} {p : String → Bool} {n : String} :
    s.names.find? p = some n ↔ n ∈ s ∧ p n = true ∧ ∀ k ∈ s, k < n → p k = false := by
  have found : ∀ {n}, s.names.find? p = some n →
      n ∈ s ∧ p n = true ∧ ∀ k ∈ s, k < n → p k = false := by
    intro n h
    obtain ⟨hp, before, after, hsplit, hbefore⟩ := List.find?_eq_some_iff_append.1 h
    refine ⟨List.mem_of_find?_eq_some h, hp, fun k hk hlt => ?_⟩
    rcases eq_or_lt_of_append hsplit hk with hmem | rfl | hgt
    · simpa using hbefore k hmem
    · exact absurd hlt (String.lt_irrefl k)
    · exact absurd hgt (String.lt_asymm hlt)
  constructor
  · exact found
  · rintro ⟨hn, hp, hleast⟩
    cases h : s.names.find? p with
    | none => exact absurd hp (List.find?_eq_none.1 h n hn)
    | some m =>
        obtain ⟨hm, hpm, hbefore⟩ := found h
        rcases lt_trichotomy m n with hlt | rfl | hgt
        · rw [hleast m hm hlt] at hpm
          cases hpm
        · rfl
        · rw [hbefore n hn hgt] at hp
          cases hp

end Text.NameSet

/-! ## The walk through the satisfied names -/

namespace Registry

variable {reg : Registry}

/-- Whether the walk for a requested method stops at a name. -/
def settles (reg : Registry) (requested : Method) (name : String) : Bool :=
  match reg.get? name with
  | some m => m.isAtLeastAsStrongAs requested
  | none => true

/-- Every name of a set is registered, or comes after a registered one that is at least as strong as
a method. -/
def Recognizes (reg : Registry) (satisfied : Text.NameSet) (requested : String) : Prop :=
  ∀ n ∈ satisfied, reg.contains n = true ∨ ∃ o ∈ satisfied, o < n ∧ reg.AtLeast o requested

theorem settles_of_not_contains {requested : Method} {name : String}
    (h : reg.contains name = false) : reg.settles requested name = true := by
  have hnone : reg.get? name = none := by simpa [contains] using h
  simp [settles, hnone]

theorem settles_eq_false_iff {requested : Method} {name : String}
    (hreq : reg.get? requested.name = some requested) :
    reg.settles requested name = false ↔
      reg.contains name = true ∧ ¬ reg.AtLeast name requested.name := by
  unfold settles contains
  cases h : reg.get? name with
  | none => simp
  | some m => simp [AtLeast, h, hreq, Method.isAtLeastAsStrongAs]

theorem anyAtLeast_eq (requested : Method) (names : List String) :
    reg.anyAtLeast requested names = match names.find? (reg.settles requested) with
      | none => .ok false
      | some n => if reg.contains n then .ok true else .error (.unregisteredMethod n) := by
  induction names with
  | nil => rfl
  | cons name rest ih =>
      rw [anyAtLeast, List.find?_cons]
      cases h : reg.get? name with
      | none =>
          have hcontains : reg.contains name = false := by simp [contains, h]
          rw [require_of_not_contains hcontains]
          simp [settles, h, hcontains]
      | some m =>
          have hcontains : reg.contains name = true := by simp [contains, h]
          rw [require_of_get? h]
          cases hstrong : m.isAtLeastAsStrongAs requested with
          | true => simp [settles, h, hstrong, hcontains]
          | false => simp [settles, h, hstrong, ih]

theorem get?_name {name : String} {m : Method} (h : reg.get? name = some m) : m.name = name := by
  simpa using List.find?_some h

end Registry

namespace Ranking

variable {k : Ranking} {satisfied : Text.NameSet} {requested : String}

/-- Where the requested method is registered, the first name that settles the matter decides. -/
theorem covers_eq (satisfied : Text.NameSet) (hreq : k.registry.contains requested = true) :
    ∃ m, k.registry.get? m.name = some m ∧ m.name = requested ∧
      k.covers satisfied requested =
        match satisfied.names.find? (k.registry.settles m) with
        | none => .ok false
        | some n => if k.registry.contains n then .ok true else .error (.unregisteredMethod n) := by
  obtain ⟨m, hm⟩ := Registry.contains_iff.1 hreq
  have hname := Registry.get?_name hm
  refine ⟨m, by rw [hname]; exact hm, hname, ?_⟩
  unfold covers
  by_cases hempty : satisfied.isEmpty = true
  · have hnil : satisfied.names = [] := by simpa [Text.NameSet.isEmpty] using hempty
    simp [hempty, hnil]
  · rw [if_neg hempty, Registry.require_of_get? hm]
    exact Registry.anyAtLeast_eq m satisfied.names

theorem covers_of_not_contains (hne : satisfied.isEmpty = false)
    (hreq : k.registry.contains requested = false) :
    k.covers satisfied requested = .error (.unregisteredMethod requested) := by
  rw [covers, if_neg (by simp [hne]), Registry.require_of_not_contains hreq]

/-- The walk stops at a name that settles the matter, or at one before it. -/
theorem exists_first_settling {m : Method} {n : String} (hn : n ∈ satisfied)
    (hsettles : k.registry.settles m n = true) :
    ∃ first, satisfied.names.find? (k.registry.settles m) = some first ∧
      (first = n ∨ first < n) := by
  cases hfind : satisfied.names.find? (k.registry.settles m) with
  | none => exact absurd hsettles (List.find?_eq_none.1 hfind n hn)
  | some first =>
      refine ⟨first, rfl, ?_⟩
      obtain ⟨-, -, hbefore⟩ := Text.NameSet.find?_eq_some_iff.1 hfind
      rcases lt_trichotomy first n with hlt | heq | hgt
      · exact Or.inr hlt
      · exact Or.inl heq
      · rw [hbefore n hn hgt] at hsettles
        cases hsettles

/-- What covers a method is registered and at least as strong, and every name before it is
registered. -/
theorem covers_eq_true_iff (hreq : k.registry.contains requested = true) :
    k.covers satisfied requested = .ok true ↔ ∃ n ∈ satisfied, k.registry.AtLeast n requested ∧
      ∀ o ∈ satisfied, o < n → k.registry.contains o = true := by
  obtain ⟨m, hm, rfl, heq⟩ := covers_eq satisfied hreq
  rw [heq]
  constructor
  · intro h
    cases hfind : satisfied.names.find? (k.registry.settles m) with
    | none => simp [hfind] at h
    | some n =>
        obtain ⟨hn, hsettles, hbefore⟩ := Text.NameSet.find?_eq_some_iff.1 hfind
        have hcontains : k.registry.contains n = true := by simpa [hfind] using h
        refine ⟨n, hn, ?_, fun o ho hlt => ?_⟩
        · by_contra hweak
          rw [(Registry.settles_eq_false_iff hm).2 ⟨hcontains, hweak⟩] at hsettles
          cases hsettles
        · exact ((Registry.settles_eq_false_iff hm).1 (hbefore o ho hlt)).1
  · rintro ⟨n, hn, hstrong, hbefore⟩
    have hsettles : k.registry.settles m n = true := by
      by_contra hfalse
      exact ((Registry.settles_eq_false_iff hm).1 (by simpa using hfalse)).2 hstrong
    obtain ⟨first, hfind, hle⟩ := exists_first_settling hn hsettles
    have hcontains : k.registry.contains first = true := by
      rcases hle with rfl | hlt
      · exact hstrong.contains_left
      · exact hbefore first (List.mem_of_find?_eq_some hfind) hlt
    simp [hfind, hcontains]

/-- What does not cover a method holds registered and weaker names only. -/
theorem covers_eq_false_iff (hreq : k.registry.contains requested = true) :
    k.covers satisfied requested = .ok false ↔ ∀ n ∈ satisfied,
      k.registry.contains n = true ∧ ¬ k.registry.AtLeast n requested := by
  obtain ⟨m, hm, rfl, heq⟩ := covers_eq satisfied hreq
  rw [heq]
  have hweak : satisfied.names.find? (k.registry.settles m) = none ↔ ∀ n ∈ satisfied,
      k.registry.contains n = true ∧ ¬ k.registry.AtLeast n m.name := by
    simp only [List.find?_eq_none, Bool.not_eq_true, Registry.settles_eq_false_iff hm]
    rfl
  rw [← hweak]
  cases satisfied.names.find? (k.registry.settles m) with
  | none => simp
  | some n => by_cases hc : k.registry.contains n = true <;> simp [hc]

/-- The walk reports the first name that is not registered, if all names before it are and are
weaker than the requested method. -/
theorem covers_eq_error_iff (hreq : k.registry.contains requested = true) {n : String} :
    k.covers satisfied requested = .error (.unregisteredMethod n) ↔
      n ∈ satisfied ∧ k.registry.contains n = false ∧ ∀ o ∈ satisfied, o < n →
        k.registry.contains o = true ∧ ¬ k.registry.AtLeast o requested := by
  obtain ⟨m, hm, rfl, heq⟩ := covers_eq satisfied hreq
  have hfound : k.covers satisfied m.name = .error (.unregisteredMethod n) ↔
      satisfied.names.find? (k.registry.settles m) = some n ∧ k.registry.contains n = false := by
    rw [heq]
    cases satisfied.names.find? (k.registry.settles m) with
    | none => simp
    | some first =>
        cases hc : k.registry.contains first with
        | true =>
            refine iff_of_false (by simp [hc]) ?_
            rintro ⟨hfirst, hmissing⟩
            rw [Option.some.inj hfirst, hmissing] at hc
            cases hc
        | false =>
            constructor
            · intro h
              have hname : first = n := by simpa [hc] using h
              exact ⟨congrArg some hname, hname ▸ hc⟩
            · rintro ⟨hfirst, hmissing⟩
              simp [Option.some.inj hfirst, hmissing]
  rw [hfound, Text.NameSet.find?_eq_some_iff]
  simp only [Registry.settles_eq_false_iff hm]
  constructor
  · rintro ⟨⟨hn, -, hbefore⟩, hmissing⟩
    exact ⟨hn, hmissing, hbefore⟩
  · rintro ⟨hn, hmissing, hbefore⟩
    exact ⟨⟨hn, Registry.settles_of_not_contains hmissing, hbefore⟩, hmissing⟩

/-- The walk fails exactly when it meets a name that is not registered before it meets one that is
at least as strong as the requested method. -/
theorem covers_fails_iff (hreq : k.registry.contains requested = true) :
    (∃ e, k.covers satisfied requested = .error e) ↔ ∃ n ∈ satisfied,
      k.registry.contains n = false ∧
        ∀ o ∈ satisfied, o < n → ¬ k.registry.AtLeast o requested := by
  obtain ⟨m, hm, rfl, heq⟩ := covers_eq satisfied hreq
  rw [heq]
  constructor
  · rintro ⟨e, h⟩
    cases hfind : satisfied.names.find? (k.registry.settles m) with
    | none => simp [hfind] at h
    | some n =>
        obtain ⟨hn, -, hbefore⟩ := Text.NameSet.find?_eq_some_iff.1 hfind
        have hmissing : k.registry.contains n = false := by
          by_contra hc
          rw [Bool.not_eq_false] at hc
          simp [hfind, hc] at h
        exact ⟨n, hn, hmissing,
          fun o ho hlt => ((Registry.settles_eq_false_iff hm).1 (hbefore o ho hlt)).2⟩
  · rintro ⟨n, hn, hmissing, hbefore⟩
    have hsettles : k.registry.settles m n = true := Registry.settles_of_not_contains hmissing
    obtain ⟨first, hfind, hle⟩ := exists_first_settling hn hsettles
    -- a name that settles the matter before `n` is not strong enough, so it is not registered
    have hcontains : k.registry.contains first = false := by
      rcases hle with rfl | hlt
      · exact hmissing
      · by_contra hc
        have hfirst : k.registry.settles m first = false :=
          (Registry.settles_eq_false_iff hm).2
            ⟨by simpa using hc, hbefore first (List.mem_of_find?_eq_some hfind) hlt⟩
        rw [List.find?_some hfind] at hfirst
        cases hfirst
    exact ⟨.unregisteredMethod first, by simp [hfind, hcontains]⟩

theorem covers_ok_iff (hreq : k.registry.contains requested = true) :
    (∃ covered, k.covers satisfied requested = .ok covered) ↔
      k.registry.Recognizes satisfied requested := by
  have hok : (∃ covered, k.covers satisfied requested = .ok covered) ↔
      ¬ ∃ e, k.covers satisfied requested = .error e := by
    cases k.covers satisfied requested <;> simp
  rw [hok, covers_fails_iff hreq]
  constructor
  · intro h n hn
    by_contra hbad
    rw [not_or, Bool.not_eq_true] at hbad
    exact h ⟨n, hn, hbad.1, fun o ho hlt hstrong => hbad.2 ⟨o, ho, hlt, hstrong⟩⟩
  · rintro h ⟨n, hn, hmissing, hbefore⟩
    rcases h n hn with hcontains | ⟨o, ho, hlt, hstrong⟩
    · rw [hmissing] at hcontains
      cases hcontains
    · exact hbefore o ho hlt hstrong

/-- A method that is recorded itself is covered, or the walk failed before it. -/
theorem not_mem_of_covers_eq_false (h : k.covers satisfied requested = .ok false) :
    requested ∉ satisfied := by
  intro hmem
  cases hreq : k.registry.contains requested with
  | true => exact ((covers_eq_false_iff hreq).1 h requested hmem).2 (.refl hreq)
  | false =>
      have hne : satisfied.isEmpty = false := by
        rw [← Bool.not_eq_true, Text.NameSet.isEmpty_iff]
        exact fun hnone => hnone requested hmem
      rw [covers_of_not_contains hne hreq] at h
      cases h

/-- A method that is recorded itself is covered where all that is recorded is registered. -/
theorem covers_of_mem (hregistered : ∀ n ∈ satisfied, k.registry.contains n = true)
    (hmem : requested ∈ satisfied) : k.covers satisfied requested = .ok true := by
  have hreq := hregistered requested hmem
  exact (covers_eq_true_iff hreq).2
    ⟨requested, hmem, .refl hreq, fun o ho _ => hregistered o ho⟩

/-- The walk fails with nothing but a name that is not registered. -/
theorem unregistered_of_covers_eq_error {e : ServiceError}
    (h : k.covers satisfied requested = .error e) :
    ∃ n, e = .unregisteredMethod n ∧ k.registry.contains n = false ∧
      (n = requested ∨ n ∈ satisfied) := by
  cases hreq : k.registry.contains requested with
  | true =>
      obtain ⟨m, -, -, heq⟩ := covers_eq satisfied hreq
      rw [heq] at h
      split at h
      next => cases h
      next n hfind =>
          split at h
          next => cases h
          next hmissing =>
              exact ⟨n, (Except.error.inj h).symm, by simpa using hmissing,
                Or.inr (List.mem_of_find?_eq_some hfind)⟩
  | false =>
      cases hempty : satisfied.isEmpty with
      | true => simp [covers, hempty] at h
      | false =>
          rw [covers_of_not_contains hempty hreq] at h
          exact ⟨requested, (Except.error.inj h).symm, hreq, Or.inl rfl⟩

end Ranking

/-! ## What is reported of a whole set -/

/-- Some of the names are not registered, but the walk for a registered method meets a strong one
before it meets any of them. -/
structure Registry.Masks (reg : Registry) (satisfied : Text.NameSet) (requested : String) :
    Prop where
  registered : reg.contains requested = true
  missed : ∃ n ∈ satisfied, reg.contains n = false
  recognizes : reg.Recognizes satisfied requested

namespace Ranking

variable {k : Ranking} {satisfied : Text.NameSet} {requested : String}

/-- Coverage is reported as a matter of the whole set: it fails exactly when the requested name or a
satisfied one is not registered, and otherwise tells whether a satisfied method is at least as
strong as the requested one. -/
structure ReportsAll (k : Ranking) (satisfied : Text.NameSet) (requested : String) : Prop where
  fails_iff : (∃ n, k.covers satisfied requested = .error (.unregisteredMethod n)) ↔
    k.registry.contains requested = false ∨ ∃ n ∈ satisfied, k.registry.contains n = false
  answers : k.registry.contains requested = true →
    (∀ n ∈ satisfied, k.registry.contains n = true) →
    ∃ covered, k.covers satisfied requested = .ok covered ∧
      (covered = true ↔ ∃ n ∈ satisfied, k.registry.AtLeast n requested)

theorem fails_iff_not_recognizes (hreq : k.registry.contains requested = true) :
    (∃ n, k.covers satisfied requested = .error (.unregisteredMethod n)) ↔
      ¬ k.registry.Recognizes satisfied requested := by
  rw [← covers_ok_iff hreq]
  cases h : k.covers satisfied requested with
  | ok covered => simp
  | error e =>
      obtain ⟨n, rfl, -⟩ := unregistered_of_covers_eq_error h
      simp

/-- Where every name is registered, the walk tells whether one is strong enough. -/
theorem answers_of_registered (hreq : k.registry.contains requested = true)
    (hall : ∀ n ∈ satisfied, k.registry.contains n = true) :
    ∃ covered, k.covers satisfied requested = .ok covered ∧
      (covered = true ↔ ∃ n ∈ satisfied, k.registry.AtLeast n requested) := by
  obtain ⟨covered, hcovers⟩ := (covers_ok_iff hreq).2 fun n hn => Or.inl (hall n hn)
  refine ⟨covered, hcovers, ?_⟩
  cases covered with
  | true =>
      obtain ⟨n, hn, hstrong, -⟩ := (covers_eq_true_iff hreq).1 hcovers
      exact iff_of_true rfl ⟨n, hn, hstrong⟩
  | false =>
      refine iff_of_false Bool.false_ne_true ?_
      rintro ⟨n, hn, hstrong⟩
      exact ((covers_eq_false_iff hreq).1 hcovers n hn).2 hstrong

theorem covers_of_masks (h : k.registry.Masks satisfied requested) :
    k.covers satisfied requested = .ok true := by
  obtain ⟨covered, hcovers⟩ := (covers_ok_iff h.registered).2 h.recognizes
  cases covered with
  | true => exact hcovers
  | false =>
      obtain ⟨n, hn, hmissing⟩ := h.missed
      rw [((covers_eq_false_iff h.registered).1 hcovers n hn).1] at hmissing
      cases hmissing

/-- Coverage by some satisfied names is reported as a matter of the whole set exactly where no
strong name masks those that are not registered, and where one does the method counts as covered.
A failure names one of the names that are not registered. -/
theorem coverage_reported_iff (hne : satisfied.isEmpty = false) :
    (k.ReportsAll satisfied requested ↔ ¬ k.registry.Masks satisfied requested) ∧
    (k.registry.Masks satisfied requested → k.covers satisfied requested = .ok true) ∧
    ∀ e, k.covers satisfied requested = .error e →
      ∃ n, e = .unregisteredMethod n ∧ k.registry.contains n = false ∧
        (n = requested ∨ n ∈ satisfied) := by
  refine ⟨⟨fun hreports hmasks => ?_, fun hnot => ⟨?_, answers_of_registered⟩⟩, covers_of_masks,
    fun e he => unregistered_of_covers_eq_error he⟩
  · obtain ⟨n, hn⟩ := hreports.fails_iff.2 (Or.inr hmasks.missed)
    rw [covers_of_masks hmasks] at hn
    cases hn
  · cases hreq : k.registry.contains requested with
    | false => exact iff_of_true ⟨requested, covers_of_not_contains hne hreq⟩ (Or.inl rfl)
    | true =>
        -- the walk fails exactly where a name is not recognized, and unless strong names mask them
        -- all, that is where one is not registered
        rw [fails_iff_not_recognizes hreq]
        constructor
        · intro hlost
          by_contra hnone
          refine hlost fun n hn => Or.inl ?_
          by_contra hmissing
          exact hnone (Or.inr ⟨n, hn, by simpa using hmissing⟩)
        · rintro (hfalse | hmissed) hrecognizes
          · cases hfalse
          · exact hnot ⟨hreq, hmissed, hrecognizes⟩

/-- A ranking by two methods. -/
def duoOverOtp : Ranking :=
  ⟨⟨[⟨"duo", 1⟩, ⟨"otp", 2⟩], by decide⟩⟩

/-- A name that is not registered is reported where it comes before every strong one. -/
theorem coverage_reports_app_before_duo :
    (Text.NameSet.ofList ["duo", "app"]).isEmpty = false ∧
      duoOverOtp.ReportsAll (.ofList ["duo", "app"]) "otp" := by
  have hne : (Text.NameSet.ofList ["duo", "app"]).isEmpty = false := by decide
  refine ⟨hne, (coverage_reported_iff hne).1.2 fun hmasks => ?_⟩
  rcases hmasks.recognizes "app" (by decide) with hcontains | ⟨o, ho, hlt, -⟩
  · exact absurd hcontains (by decide)
  · rcases List.mem_cons.1 (Text.NameSet.mem_ofList.1 ho) with rfl | ho
    · exact absurd hlt (by decide)
    · cases List.mem_singleton.1 ho
      exact absurd hlt (by decide)

/-- Behind the strong method a name that is not registered goes unnoticed. -/
theorem duo_masks_push :
    duoOverOtp.covers (.ofList ["duo", "push"]) "otp" = .ok true ∧
      ¬ duoOverOtp.ReportsAll (.ofList ["duo", "push"]) "otp" := by
  have hcovers : duoOverOtp.covers (.ofList ["duo", "push"]) "otp" = .ok true := by rfl
  refine ⟨hcovers, fun hreports => ?_⟩
  obtain ⟨n, hn⟩ := hreports.fails_iff.2 (Or.inr ⟨"push", by decide, by decide⟩)
  rw [hcovers] at hn
  cases hn

end Ranking

end StepUp
