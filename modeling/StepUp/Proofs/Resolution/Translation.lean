import StepUp.Proofs.Ranking.Order
import StepUp.Proofs.Resolution.FullMatch

/-!
# Translations

A translator compiles its patterns when it is built, and then shares the cache with everything else
that matches patterns.  This file shows that no pattern of it has to be compiled again, whatever is
done with the cache in the meantime, and says what it makes of a value
(`Translator.translates_after_build`).

* A look-up adds its pattern to the end of the cache, if it was not there and compiles, and changes
  nothing else (`compiled_compiledPattern`).  So does all that is made of look-ups
  (`Cached.adds_stepwise`), and a cache keeps what it has over any calls
  (`PatternCache.prefix_after`).
* Patterns are compiled up to the first that fails.  So a translator is built just where all of its
  patterns compile, and then the cache has them all (`Translator.answer_build_eq_ok_iff`,
  `Translator.hasAll_build`).
* A look-up of what a cache has leaves the cache as it is.
* What a value stands for is told from the settings alone (`TranslatorSettings.Means`).  The walk
  over the mappings ends at the first that applies, which is what a search in the list finds
  (`Translator.answer_firstMatch`).
-/

namespace StepUp

open Regex Cached

section

variable [Regex.Dialect]

/-! ## What computations add -/

namespace Cached

variable {α β : Type}

/-- A computation keeps what the cache has, in its place. -/
def Adds (x : Cached α) : Prop :=
  ∀ c, c.compiled <+: (leaves x c).compiled

theorem adds_bind {x : Cached α} {f : α → Cached β} (hx : Adds x) (hf : ∀ a, Adds (f a)) :
    Adds (x >>= f) := by
  intro c
  rw [leaves_bind]
  cases answer x c with
  | ok a => exact (hx c).trans (hf a _)
  | error e => exact hx c

end Cached

/-- A look-up adds a pattern that was not there and compiles, and changes nothing else. -/
theorem compiled_compiledPattern (pattern : String) (c : PatternCache) :
    (leaves (compiledPattern pattern) c).compiled =
      match c.find? pattern, compileAnchored pattern with
      | none, .ok r => c.compiled ++ [(pattern, r)]
      | _, _ => c.compiled := by
  unfold leaves compiledPattern
  split
  next e hfound => rw [hfound]
  next hfound =>
      split
      next r hr =>
          change c.compiled ++ [(pattern, r)] = _
          rw [hfound, hr]
      next fault hfault => rw [hfound, hfault]

theorem adds_compiledPattern (pattern : String) : Adds (compiledPattern pattern) := by
  intro c
  rw [compiled_compiledPattern]
  split
  · exact List.prefix_append _ _
  · exact List.prefix_rfl

theorem Cached.adds_stepwise : Stepwise fun x => Adds x where
  pure := fun _ _ => List.prefix_rfl
  bind := adds_bind
  compiled := adds_compiledPattern
  required := fun _ _ c => by rw [leaves_liftM]
  ranked := fun _ _ c => by rw [leaves_liftM]
  unrecognized := fun _ _ _ => List.prefix_rfl

/-! ## Histories of a cache -/

namespace PatternCache

/-- A cache has the compiled form of a pattern. -/
def Has (c : PatternCache) (pattern : String) : Prop :=
  ∃ r, (pattern, r) ∈ c.compiled

variable {c d : PatternCache} {pattern : String}

theorem Has.mono (h : c.Has pattern) (hcd : c.compiled <+: d.compiled) : d.Has pattern := by
  obtain ⟨r, hr⟩ := h
  exact ⟨r, hcd.subset hr⟩

theorem Has.exists_find? (h : c.Has pattern) : ∃ e, c.find? pattern = some e := by
  obtain ⟨r, hr⟩ := h
  cases hfound : c.find? pattern with
  | some e => exact ⟨e, rfl⟩
  | none =>
      have hne := List.find?_eq_none.1 hfound _ hr
      simp at hne

/-- A look-up of a pattern that is there leaves the cache as it is. -/
theorem Has.leaves_compiledPattern (h : c.Has pattern) :
    leaves (compiledPattern pattern) c = c := by
  obtain ⟨e, he⟩ := h.exists_find?
  unfold leaves compiledPattern
  split
  next => rfl
  next hfound =>
      rw [he] at hfound
      cases hfound

theorem has_compiledPattern {r : Regex} (h : compileAnchored pattern = .ok r) :
    (leaves (compiledPattern pattern) c).Has pattern := by
  unfold Has
  rw [compiled_compiledPattern, h]
  cases hfound : c.find? pattern with
  | none => exact ⟨r, List.mem_append_right _ List.mem_cons_self⟩
  | some e =>
      have hkey : e.1 = pattern := by simpa using List.find?_some hfound
      exact ⟨e.2, hkey ▸ List.mem_of_find?_eq_some hfound⟩

/-- A call of what shares a cache: of the cache itself, of translators, and of resolvers, the role
rules among them. -/
inductive Call where
  | get (pattern : String)
  | fullMatch (pattern value : String)
  | build (settings : TranslatorSettings)
  | translate (t : Translator) (serviceId value : String)
  | resolve (res : Resolution) (ctx : ResolutionContext) (kind : ResolverKind)

/-- The cache that a call leaves, whether it succeeds or fails. -/
def call (c : PatternCache) : Call → PatternCache
  | .get pattern => leaves (compiledPattern pattern) c
  | .fullMatch pattern value => leaves (StepUp.fullMatch pattern value) c
  | .build settings => leaves (Translator.build settings) c
  | .translate t serviceId value => leaves (t.translate serviceId value) c
  | .resolve res ctx kind => leaves (res.resolve kind ctx) c

/-- The cache after some calls. -/
def after (c : PatternCache) (calls : List Call) : PatternCache :=
  calls.foldl call c

/-- Every call keeps what is there. -/
theorem prefix_call (c : PatternCache) (k : Call) : c.compiled <+: (c.call k).compiled := by
  cases k with
  | get pattern => exact adds_compiledPattern pattern c
  | fullMatch pattern value => exact adds_stepwise.fullMatch pattern value c
  | build settings => exact adds_stepwise.build settings c
  | translate t serviceId value => exact adds_stepwise.translate t serviceId value c
  | resolve res ctx kind => exact adds_stepwise.resolve res ctx kind c

/-- What is there stays, over any calls. -/
theorem prefix_after (c : PatternCache) (calls : List Call) :
    c.compiled <+: (c.after calls).compiled := by
  induction calls generalizing c with
  | nil => exact List.prefix_rfl
  | cons k calls ih => exact (c.prefix_call k).trans (ih (c.call k))

end PatternCache

/-! ## Translators that are built -/

namespace Translator

variable {c : PatternCache} {l : List String} {settings : TranslatorSettings} {t : Translator}

/-- Patterns are compiled just where each of them compiles. -/
theorem answer_compileAll_eq_ok_iff :
    answer (compileAll l) c = .ok () ↔ ∀ p ∈ l, ∃ r, compileAnchored p = .ok r := by
  induction l generalizing c with
  | nil => simp [compileAll]
  | cons p l ih =>
      rw [compileAll, answer_bind, answer_compiledPattern, List.forall_mem_cons]
      cases hp : compileAnchored p with
      | ok r => simp [Except.mapError, ih]
      | error e => simp [Except.mapError]

/-- The cache has the patterns that were compiled. -/
theorem hasAll_compileAll (h : ∀ p ∈ l, ∃ r, compileAnchored p = .ok r) :
    ∀ p ∈ l, (leaves (compileAll l) c).Has p := by
  induction l generalizing c with
  | nil => simp
  | cons p l ih =>
      obtain ⟨⟨r, hr⟩, hrest⟩ := List.forall_mem_cons.1 h
      have hfirst : (leaves (compiledPattern p) c).Has p := PatternCache.has_compiledPattern hr
      have hleaves : leaves (compileAll (p :: l)) c =
          leaves (compileAll l) (leaves (compiledPattern p) c) := by
        rw [compileAll, leaves_bind, answer_compiledPattern, hr]
        rfl
      rw [hleaves]
      exact List.forall_mem_cons.2 ⟨hfirst.mono (adds_stepwise.compileAll l _), ih hrest⟩

/-- A translator is built just where each of its patterns compiles. -/
theorem answer_build_eq_ok_iff :
    answer (build settings) c = .ok t ↔
      t = ⟨settings⟩ ∧ ∀ p ∈ patterns settings, ∃ r, compileAnchored p = .ok r := by
  rw [← answer_compileAll_eq_ok_iff (c := c), build, answer_bind_eq_ok]
  constructor
  · rintro ⟨_, hcompiled, hbuilt⟩
    cases hbuilt
    exact ⟨rfl, hcompiled⟩
  · rintro ⟨rfl, hcompiled⟩
    exact ⟨(), hcompiled, rfl⟩

/-- The cache has the patterns of a translator that was built. -/
theorem hasAll_build (h : answer (build settings) c = .ok t) :
    ∀ p ∈ patterns settings, (leaves (build settings) c).Has p := by
  obtain ⟨-, hcompiles⟩ := answer_build_eq_ok_iff.1 h
  have hleaves : leaves (build settings) c = leaves (compileAll (patterns settings)) c := by
    rw [build, leaves_bind, answer_compileAll_eq_ok_iff.2 hcompiles]
    rfl
  rw [hleaves]
  exact hasAll_compileAll hcompiles

end Translator

/-! ## What a value stands for -/

/-- The pattern of a mapping, compiled to match in full, matches a value. -/
def RegexMapping.Matches (m : RegexMapping) (value : String) : Prop :=
  ∃ r, compileAnchored m.pattern = .ok r ∧ r.isMatch value = true

instance (m : RegexMapping) (value : String) : Decidable (m.Matches value) :=
  match h : compileAnchored m.pattern with
  | .ok r => decidable_of_iff (r.isMatch value = true) (by simp [RegexMapping.Matches, h])
  | .error _ => isFalse (by simp [RegexMapping.Matches, h])

/-- What a value stands for in some settings: the method of the first mapping that applies.  Without
one it is the value itself or the default method, or an error, where values without a mapping are
refused. -/
inductive TranslatorSettings.Means (serviceId value : String) :
    TranslatorSettings → Except ServiceError (Option String) → Prop
  | passthrough : Means serviceId value .passthrough (.ok (some value))
  | listed {mappings : List StaticMapping} {ignore : Bool} {m : StaticMapping} :
      IsFirst (fun m => value ∈ m.values) mappings m →
      Means serviceId value (.static mappings ignore) (.ok (some m.method))
  | unlisted {mappings : List StaticMapping} : (∀ m ∈ mappings, value ∉ m.values) →
      Means serviceId value (.static mappings true) (.ok (some value))
  | unlistedRefused {mappings : List StaticMapping} : (∀ m ∈ mappings, value ∉ m.values) →
      Means serviceId value (.static mappings false) (.error (.unrecognizedMethod value serviceId))
  | matched {mappings : List RegexMapping} {ignore : Bool} {default? : Option String}
      {m : RegexMapping} : IsFirst (fun m => m.Matches value) mappings m →
      Means serviceId value (.regex mappings ignore default?) (.ok (some m.method))
  | unmatchedDefault {mappings : List RegexMapping} {method : String} :
      (∀ m ∈ mappings, ¬ m.Matches value) → Text.blank method = false →
      Means serviceId value (.regex mappings true (some method)) (.ok (some (Text.trim method)))
  | unmatchedNothing {mappings : List RegexMapping} {default? : Option String} :
      (∀ m ∈ mappings, ¬ m.Matches value) → (∀ method ∈ default?, Text.blank method = true) →
      Means serviceId value (.regex mappings true default?) (.ok none)
  | unmatchedRefused {mappings : List RegexMapping} {default? : Option String} :
      (∀ m ∈ mappings, ¬ m.Matches value) →
      Means serviceId value (.regex mappings false default?)
        (.error (.unrecognizedMethod value serviceId))

/-- A value never stands for an error about a pattern. -/
theorem TranslatorSettings.Means.ne_invalidPattern {serviceId value : String}
    {settings : TranslatorSettings} {a : Except ServiceError (Option String)}
    (h : settings.Means serviceId value a) (pattern message : String) :
    a ≠ .error (.invalidPattern pattern message) := by
  cases h <;> nofun

/-- A value without a mapping stands for what is left of the default method, if anything is. -/
theorem TranslatorSettings.Means.unmatched {serviceId value : String} {mappings : List RegexMapping}
    (habsent : ∀ m ∈ mappings, ¬ m.Matches value) (default? : Option String) :
    Means serviceId value (.regex mappings true default?) (.ok (default?.bind Text.trimmed?)) := by
  cases default? with
  | none => exact .unmatchedNothing habsent nofun
  | some method =>
      rw [Option.bind_some]
      cases hblank : Text.blank method with
      | true =>
          rw [Text.trimmed?_of_blank hblank]
          exact .unmatchedNothing habsent (by simpa using hblank)
      | false =>
          rw [Text.trimmed?_of_not_blank hblank]
          exact .unmatchedDefault habsent hblank

namespace Translator

variable {c : PatternCache} {serviceId value : String} {t : Translator}
  {a : Except ServiceError (Option String)}

/-- Where all patterns compile the walk over the mappings finds the first that matches. -/
theorem answer_firstMatch {mappings : List RegexMapping}
    (h : ∀ m ∈ mappings, ∃ r, compileAnchored m.pattern = .ok r) :
    answer (firstMatch value mappings) c =
      .ok ((mappings.find? fun m => decide (m.Matches value)).map (·.method)) := by
  induction mappings generalizing c with
  | nil => rfl
  | cons m rest ih =>
      obtain ⟨⟨r, hr⟩, hrest⟩ := List.forall_mem_cons.1 h
      rw [firstMatch, answer_bind, answer_fullMatch, hr, List.find?_cons]
      dsimp only
      cases hmatch : r.isMatch value with
      | true =>
          have hmatches : m.Matches value := ⟨r, hr, hmatch⟩
          simp [hmatches]
      | false =>
          have hmatches : ¬ m.Matches value := by
            rintro ⟨r', hr', hmatch'⟩
            rw [hr] at hr'
            cases hr'
            rw [hmatch] at hmatch'
            cases hmatch'
          simp [hmatches, ih hrest]

theorem answer_translate_static (mappings : List StaticMapping) (ignore : Bool) :
    answer (translate ⟨.static mappings ignore⟩ serviceId value) c =
      match mappings.find? fun m => decide (value ∈ m.values) with
      | some m => .ok (some m.method)
      | none =>
        if ignore then .ok (some value) else .error (.unrecognizedMethod value serviceId) := by
  have hcontains : (fun m : StaticMapping => m.values.contains value) =
      fun m => decide (value ∈ m.values) := by
    funext m
    simp
  simp only [translate, hcontains]
  cases mappings.find? fun m => decide (value ∈ m.values) with
  | some m => rfl
  | none => cases ignore <;> rfl

theorem answer_translate_regex {mappings : List RegexMapping}
    (h : ∀ m ∈ mappings, ∃ r, compileAnchored m.pattern = .ok r) (ignore : Bool)
    (default? : Option String) :
    answer (translate ⟨.regex mappings ignore default?⟩ serviceId value) c =
      match mappings.find? fun m => decide (m.Matches value) with
      | some m => .ok (some m.method)
      | none =>
        if ignore then .ok (default?.bind Text.trimmed?)
        else .error (.unrecognizedMethod value serviceId) := by
  simp only [translate]
  rw [answer_bind, answer_firstMatch h]
  cases mappings.find? fun m => decide (m.Matches value) with
  | some m => rfl
  | none => cases ignore <;> rfl

theorem answer_translate_static_iff {mappings : List StaticMapping} {ignore : Bool} :
    answer (translate ⟨.static mappings ignore⟩ serviceId value) c = a ↔
      (TranslatorSettings.static mappings ignore).Means serviceId value a := by
  rw [answer_translate_static]
  constructor
  · rintro rfl
    cases hfind : mappings.find? fun m => decide (value ∈ m.values) with
    | some m => exact .listed (find?_eq_some_iff_isFirst.1 hfind)
    | none =>
        have habsent : ∀ m ∈ mappings, value ∉ m.values := by simpa using hfind
        cases ignore with
        | true => exact .unlisted habsent
        | false => exact .unlistedRefused habsent
  · have hnone (habsent : ∀ m ∈ mappings, value ∉ m.values) :
        mappings.find? (fun m => decide (value ∈ m.values)) = none := by simpa using habsent
    intro hmeans
    cases hmeans with
    | listed hfirst => rw [find?_eq_some_iff_isFirst.2 hfirst]
    | unlisted habsent =>
        rw [hnone habsent]
        rfl
    | unlistedRefused habsent =>
        rw [hnone habsent]
        rfl

theorem answer_translate_regex_iff {mappings : List RegexMapping} {ignore : Bool}
    {default? : Option String} (h : ∀ m ∈ mappings, ∃ r, compileAnchored m.pattern = .ok r) :
    answer (translate ⟨.regex mappings ignore default?⟩ serviceId value) c = a ↔
      (TranslatorSettings.regex mappings ignore default?).Means serviceId value a := by
  rw [answer_translate_regex h]
  constructor
  · rintro rfl
    cases hfind : mappings.find? fun m => decide (m.Matches value) with
    | some m => exact .matched (find?_eq_some_iff_isFirst.1 hfind)
    | none =>
        have habsent : ∀ m ∈ mappings, ¬ m.Matches value := by simpa using hfind
        cases ignore with
        | true => exact .unmatched habsent default?
        | false => exact .unmatchedRefused habsent
  · have hnone (habsent : ∀ m ∈ mappings, ¬ m.Matches value) :
        mappings.find? (fun m => decide (m.Matches value)) = none := by simpa using habsent
    intro hmeans
    cases hmeans with
    | matched hfirst => rw [find?_eq_some_iff_isFirst.2 hfirst]
    | unmatchedDefault habsent hblank =>
        rw [hnone habsent]
        simp [Text.trimmed?_of_not_blank hblank]
    | unmatchedNothing habsent hblank =>
        have hnothing : default?.bind Text.trimmed? = none :=
          Option.bind_eq_none_iff.2 fun method hmethod =>
            Text.trimmed?_of_blank (hblank method hmethod)
        rw [hnone habsent]
        simp [hnothing]
    | unmatchedRefused habsent =>
        rw [hnone habsent]
        rfl

/-- Where all patterns compile a translator answers what the value stands for. -/
theorem answer_translate_iff (h : ∀ p ∈ patterns t.settings, ∃ r, compileAnchored p = .ok r) :
    answer (t.translate serviceId value) c = a ↔ t.settings.Means serviceId value a := by
  obtain ⟨settings⟩ := t
  cases settings with
  | passthrough =>
      constructor
      · rintro rfl
        exact .passthrough
      · intro hmeans
        cases hmeans
        rfl
  | static mappings ignore => exact answer_translate_static_iff
  | regex mappings ignore default? =>
      exact answer_translate_regex_iff fun m hm => h m.pattern (List.mem_map_of_mem hm)

/-! ## Translations over a history -/

/-- A walk over mappings whose patterns are there leaves the cache as it is. -/
theorem leaves_firstMatch {mappings : List RegexMapping} (h : ∀ m ∈ mappings, c.Has m.pattern) :
    leaves (firstMatch value mappings) c = c := by
  induction mappings with
  | nil => rfl
  | cons m rest ih =>
      obtain ⟨hfirst, hrest⟩ := List.forall_mem_cons.1 h
      have hfull : leaves (fullMatch m.pattern value) c = c := by
        unfold fullMatch
        rw [leaves_bind, hfirst.leaves_compiledPattern]
        split <;> rfl
      rw [firstMatch, leaves_bind, hfull]
      split
      next hit _ =>
        cases hit with
        | true => rfl
        | false => exact ih hrest
      next => rfl

/-- A translator whose patterns are there leaves the cache as it is. -/
theorem leaves_translate (h : ∀ p ∈ patterns t.settings, c.Has p) :
    leaves (t.translate serviceId value) c = c := by
  obtain ⟨settings⟩ := t
  cases settings with
  | passthrough => rfl
  | static mappings ignore =>
      simp only [translate]
      split
      · rfl
      · cases ignore <;> rfl
  | regex mappings ignore default? =>
      simp only [translate]
      rw [leaves_bind, leaves_firstMatch (by simpa [patterns] using h)]
      split
      next found _ =>
        cases found with
        | some method => rfl
        | none => cases ignore <;> rfl
      next => rfl

/-- In every history of a cache: a translator is built just where each of its patterns compiles.
Once it is built, and over whatever is done with the cache after that, it answers what the value
stands for, which is never an error about a pattern, and leaves the cache as it is. -/
theorem translates_after_build (settings : TranslatorSettings)
    (earlier : List PatternCache.Call) :
    let c := PatternCache.empty.after earlier
    ((∃ t, answer (build settings) c = .ok t) ↔
      ∀ p ∈ patterns settings, ∃ r, compileAnchored p = .ok r) ∧
    ∀ t, answer (build settings) c = .ok t → ∀ (later : List PatternCache.Call)
      (serviceId value : String),
      let d := (leaves (build settings) c).after later
      leaves (t.translate serviceId value) d = d ∧
      (∀ pattern message, answer (t.translate serviceId value) d ≠
        .error (.invalidPattern pattern message)) ∧
      ∀ a, answer (t.translate serviceId value) d = a ↔ settings.Means serviceId value a := by
  intro c
  refine ⟨⟨?_, fun h => ⟨⟨settings⟩, answer_build_eq_ok_iff.2 ⟨rfl, h⟩⟩⟩, ?_⟩
  · rintro ⟨t, hbuilt⟩
    exact (answer_build_eq_ok_iff.1 hbuilt).2
  · intro t hbuilt later serviceId value d
    obtain ⟨rfl, hcompiles⟩ := answer_build_eq_ok_iff.1 hbuilt
    have hkept : ∀ p ∈ patterns settings, d.Has p := fun p hp =>
      (hasAll_build hbuilt p hp).mono (PatternCache.prefix_after _ later)
    refine ⟨leaves_translate hkept, ?_, fun a => answer_translate_iff hcompiles⟩
    intro pattern message hanswer
    exact ((answer_translate_iff hcompiles).1 hanswer).ne_invalidPattern pattern message rfl

end Translator

end

/-- Two mappings apply to the value, and the first one decides.  Their patterns are found by
look-ups before the translator is built and after that, among others that do not compile. -/
theorem Translator.first_overlapping_mapping_decides :
    let settings : TranslatorSettings := .regex [⟨"a|b", "duo"⟩, ⟨"b|c", "otp"⟩] true none
    let c := PatternCache.empty.after [.get "b|c", .fullMatch "(" "b"]
    let d := (leaves (build settings) c).after [.get "[", .fullMatch "a|b" "c"]
    answer (build settings) c = .ok ⟨settings⟩ ∧
      leaves (translate ⟨settings⟩ "svc" "b") d = d ∧
      answer (translate ⟨settings⟩ "svc" "b") d = .ok (some "duo") := by
  intro settings c d
  have hcompiles : ∀ p ∈ patterns settings, ∃ r, compileAnchored p = .ok r :=
    List.forall_mem_cons.2 ⟨⟨_, rfl⟩, List.forall_mem_cons.2 ⟨⟨_, rfl⟩, by simp⟩⟩
  have hbuilt : answer (build settings) c = .ok ⟨settings⟩ :=
    answer_build_eq_ok_iff.2 ⟨rfl, hcompiles⟩
  have hmatches : RegexMapping.Matches ⟨"a|b", "duo"⟩ "b" := by
    have hordered := ordered_of_compile (rfl : compile (anchoredText "a|b") = .ok _)
    refine ⟨_, rfl, (isMatch_iff hordered "b").2 ⟨0, Nat.zero_le _, 1, ?_⟩⟩
    exact ⟨0, ⟨rfl, rfl⟩, 1, .inr ⟨rfl, 'b', rfl, rfl⟩, rfl, rfl⟩
  have hfirst : IsFirst (fun m : RegexMapping => m.Matches "b")
      [⟨"a|b", "duo"⟩, ⟨"b|c", "otp"⟩] ⟨"a|b", "duo"⟩ :=
    ⟨[], [⟨"b|c", "otp"⟩], rfl, hmatches, by simp⟩
  obtain ⟨hleaves, -, hanswer⟩ := (translates_after_build settings
    [.get "b|c", .fullMatch "(" "b"]).2 ⟨settings⟩ hbuilt [.get "[", .fullMatch "a|b" "c"] "svc" "b"
  exact ⟨hbuilt, hleaves, (hanswer _).2 (.matched hfirst)⟩

end StepUp
