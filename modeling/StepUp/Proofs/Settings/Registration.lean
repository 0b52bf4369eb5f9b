import Mathlib.Data.List.Nodup
import StepUp.Proofs.Failure.Outcome
import StepUp.Proofs.Ranking.Order

/-!
# The registration of methods

The registry is made of the methods in the settings and of those that the methods file lists.  A
name that comes twice is met at three moments: within the settings, within the file, and when the
methods of the file join those of the settings.  This file shows that what comes of it depends on
the two lists together alone (`Registry.registers_settings_and_file`).

* A list of methods is inserted just where no name comes twice in it and in what was there; an error
  names one that does (`Registry.exists_insertAll_iff`, `Registry.repeats_of_insertAll_eq_error`).
* The methods of the file are taken over out of a registry of their own, in an order of which
  nothing is promised.  So `Registry.ofSettingsIn` leaves the order open, and a registry answers
  alike whatever it was (`Registry.holds_of_perm`).
-/

namespace StepUp.Registry

variable {reg reg' : Registry} {l : List Method} {m : Method} {name : String} {e : ServiceError}

/-! ## What a registry holds -/

/-- A registry has just the methods of a list, each under its name. -/
structure Holds (reg : Registry) (l : List Method) : Prop where
  size : reg.size = l.length
  listed : ∀ m ∈ l, reg.contains m.name = true ∧ reg.get? m.name = some m ∧
    reg.rank m.name = .ok m.rank
  other : ∀ name, name ∉ l.map (·.name) → reg.contains name = false ∧ reg.get? name = none ∧
    reg.rank name = .error (.unregisteredMethod name)

theorem eq_of_methods (h : reg.methods = reg'.methods) : reg = reg' := by
  cases reg
  cases reg'
  cases h
  rfl

theorem get?_of_mem (h : m ∈ reg.methods) : reg.get? m.name = some m := by
  cases hfound : reg.get? m.name with
  | none => exact absurd (List.mem_map_of_mem h) (get?_eq_none_iff.1 hfound)
  | some m' =>
      have hmem : m' ∈ reg.methods := List.mem_of_find?_eq_some hfound
      have hname : m'.name = m.name := by simpa using List.find?_some hfound
      rw [List.inj_on_of_nodup_map reg.distinct hmem h hname]

/-- The order in which methods were inserted does not show. -/
theorem holds_of_perm (h : reg.methods.Perm l) : reg.Holds l where
  size := h.length_eq
  listed := by
    intro m hm
    have hfound := get?_of_mem (h.mem_iff.2 hm)
    exact ⟨contains_iff.2 ⟨m, hfound⟩, hfound, rank_of_get? hfound⟩
  other := by
    intro name hname
    have hnone : reg.get? name = none :=
      get?_eq_none_iff.2 fun hmem => hname ((h.map _).mem_iff.1 hmem)
    have hmissing : reg.contains name = false := by simp [contains, hnone]
    exact ⟨hmissing, hnone, rank_of_not_contains hmissing⟩

/-! ## Inserting a list of methods -/

/-- A name comes more than once in a list of methods. -/
def Repeats (l : List Method) (name : String) : Prop :=
  2 ≤ (l.map (·.name)).count name

theorem Repeats.mono {l' : List Method} (h : Repeats l name) (hsub : l.Sublist l') :
    Repeats l' name :=
  h.trans ((hsub.map _).count_le name)

theorem Repeats.perm {l' : List Method} (h : Repeats l name) (hperm : l.Perm l') :
    Repeats l' name :=
  h.trans_eq ((hperm.map _).count_eq name)

theorem Repeats.not_nodup (h : Repeats l name) : ¬ (l.map (·.name)).Nodup := by
  intro hnodup
  have honce := List.nodup_iff_count_le_one.1 hnodup name
  rw [Repeats] at h
  omega

theorem insert_of_new (h : reg.get? m.name = none) :
    ∃ reg', reg.insert m = .ok reg' ∧ reg'.methods = reg.methods ++ [m] :=
  ⟨_, dif_pos h, rfl⟩

theorem insert_of_taken (h : reg.get? m.name ≠ none) :
    reg.insert m = .error (.invalidConfig (.duplicateMethod m.name)) :=
  dif_neg h

theorem mem_names_of_taken (h : reg.get? name ≠ none) : name ∈ reg.methods.map (·.name) := by
  by_contra habsent
  exact h (get?_eq_none_iff.2 habsent)

theorem insertAll_cons (reg : Registry) (m : Method) (l : List Method) :
    reg.insertAll (m :: l) = reg.insert m >>= fun reg' => reg'.insertAll l :=
  List.foldlM_cons

/-- Methods are inserted after those that were there. -/
theorem insertAll_eq_ok_iff : reg.insertAll l = .ok reg' ↔ reg'.methods = reg.methods ++ l := by
  induction l generalizing reg with
  | nil =>
      rw [List.append_nil]
      constructor
      · intro h
        cases h
        rfl
      · intro h
        rw [eq_of_methods h]
        rfl
  | cons m l ih =>
      rw [insertAll_cons]
      by_cases hnew : reg.get? m.name = none
      · obtain ⟨next, hnext, hmethods⟩ := insert_of_new hnew
        rw [hnext]
        change next.insertAll l = .ok reg' ↔ _
        rw [ih, hmethods, List.append_assoc]
        rfl
      · rw [insert_of_taken hnew]
        refine iff_of_false (fun h => by cases h) fun h => ?_
        -- the name would come twice in the new registry
        have hdistinct := reg'.distinct
        rw [h, List.map_append] at hdistinct
        exact List.disjoint_of_nodup_append hdistinct (mem_names_of_taken hnew) (by simp)

theorem exists_insertAll_iff : (∃ reg', reg.insertAll l = .ok reg') ↔
    ((reg.methods ++ l).map (·.name)).Nodup := by
  simp only [insertAll_eq_ok_iff]
  exact ⟨fun ⟨reg', h⟩ => h ▸ reg'.distinct, fun h => ⟨⟨_, h⟩, rfl⟩⟩

/-- An error names a method that comes twice. -/
theorem repeats_of_insertAll_eq_error (h : reg.insertAll l = .error e) :
    ∃ name, e = .invalidConfig (.duplicateMethod name) ∧ Repeats (reg.methods ++ l) name := by
  induction l generalizing reg with
  | nil => cases h
  | cons m l ih =>
      rw [insertAll_cons] at h
      by_cases hnew : reg.get? m.name = none
      · obtain ⟨next, hnext, hmethods⟩ := insert_of_new hnew
        rw [hnext] at h
        obtain ⟨name, he, htwice⟩ := ih h
        rw [hmethods, List.append_assoc] at htwice
        exact ⟨name, he, htwice⟩
      · rw [insert_of_taken hnew] at h
        cases h
        refine ⟨m.name, rfl, ?_⟩
        have honce := List.count_pos_iff.2 (mem_names_of_taken hnew)
        rw [Repeats, List.map_append, List.count_append, List.map_cons, List.count_cons_self]
        omega

/-! ## The methods of the file -/

/-- The methods that a text lists, if it is a list of methods. -/
def listed? (text : String) : Option (List Method) :=
  (Json.parse? text).bind fun v => (Json.readList Method.ofJson v).toOption

/-- The methods of the methods file: none where no file is configured.  A file that is not there or
that is no list of methods has no such methods. -/
def fileMethods? (s : Settings) (fileText : Option String) : Option (List Method) :=
  match s.methodsFile with
  | none => some []
  | some _ => fileText.bind listed?

theorem ofMethods_eq_ok_iff : ofMethods l = .ok reg ↔ reg.methods = l :=
  insertAll_eq_ok_iff

theorem ofJsonText_of_listed {text : String} (h : listed? text = some l) :
    ofJsonText text = ofMethods l := by
  obtain ⟨v, hparsed, hread⟩ := Option.bind_eq_some_iff.1 h
  unfold ofJsonText
  rw [hparsed]
  dsimp only
  rw [Outcome.toOption_eq_some.1 hread]

theorem ofJsonText_of_not_listed {text : String} (h : listed? text = none) :
    ∃ reason, ofJsonText text = .error (.invalidConfig (.malformed reason)) := by
  unfold ofJsonText
  cases hparsed : Json.parse? text with
  | none => exact ⟨_, rfl⟩
  | some v =>
      dsimp only
      cases hmethods : Json.readList Method.ofJson v with
      | error f => exact ⟨_, rfl⟩
      | ok methods => simp [listed?, hparsed, hmethods, Except.toOption] at h

/-- The registry of the methods file alone, which is empty where no file is configured. -/
def ofFile (s : Settings) (fileText : Option String) : Except ServiceError Registry :=
  match s.methodsFile, fileText with
  | none, _ => .ok empty
  | some path, none => .error (.invalidConfig (.missingMethodsFile path))
  | some _, some text => ofJsonText text

variable {order : List Method → List Method} {s : Settings} {fileText : Option String}
  {inline file : Registry}

theorem ofFile_eq_ok_iff : ofFile s fileText = .ok file ↔
    fileMethods? s fileText = some file.methods := by
  unfold ofFile fileMethods?
  cases s.methodsFile with
  | none =>
      refine ⟨fun h => by cases h; rfl, fun h => ?_⟩
      have hempty : empty.methods = file.methods := Option.some.inj h
      rw [eq_of_methods hempty]
  | some path =>
      cases fileText with
      | none => exact iff_of_false nofun nofun
      | some text =>
          dsimp only
          rw [Option.bind_some]
          cases hlisted : listed? text with
          | none =>
              obtain ⟨reason, hreason⟩ := ofJsonText_of_not_listed hlisted
              rw [hreason]
              exact iff_of_false nofun nofun
          | some l =>
              rw [ofJsonText_of_listed hlisted, ofMethods_eq_ok_iff, Option.some.injEq, eq_comm]

/-- A file fails where it lists no methods, or where a name comes twice in it. -/
theorem cause_of_ofFile_eq_error (h : ofFile s fileText = .error e) :
    (∃ name l, e = .invalidConfig (.duplicateMethod name) ∧ fileMethods? s fileText = some l ∧
        Repeats l name) ∨
      (fileMethods? s fileText = none ∧
        ∃ fault, e = .invalidConfig fault ∧ ∀ name, fault ≠ .duplicateMethod name) := by
  unfold ofFile at h
  unfold fileMethods?
  cases hpath : s.methodsFile with
  | none =>
      rw [hpath] at h
      cases h
  | some path =>
      rw [hpath] at h
      cases fileText with
      | none =>
          cases h
          exact .inr ⟨rfl, _, rfl, nofun⟩
      | some text =>
          dsimp only at h ⊢
          rw [Option.bind_some]
          cases hlisted : listed? text with
          | none =>
              obtain ⟨reason, hreason⟩ := ofJsonText_of_not_listed hlisted
              rw [hreason] at h
              cases h
              exact .inr ⟨rfl, _, rfl, nofun⟩
          | some l =>
              rw [ofJsonText_of_listed hlisted] at h
              obtain ⟨name, he, htwice⟩ := repeats_of_insertAll_eq_error h
              exact .inl ⟨name, l, he, rfl, htwice⟩

/-! ## The methods of the settings and of the file -/

/-- The registry of the settings is made in three steps. -/
theorem ofSettingsIn_eq (horder : ∀ l, (order l).Perm l) (s : Settings) (fileText : Option String) :
    ofSettingsIn order s fileText = (ofMethods s.methods >>= fun inline =>
      ofFile s fileText >>= fun file => inline.insertAll (order file.methods)) := by
  unfold ofSettingsIn ofFile
  refine bind_congr fun inline => ?_
  cases s.methodsFile with
  | none =>
      -- of no methods there is only one order
      have hnone : order empty.methods = [] := (horder []).eq_nil
      change Except.ok inline = inline.insertAll (order empty.methods)
      rw [hnone]
      rfl
  | some path => cases fileText <;> rfl

/-- A registry that is made has the methods of the settings and those of the file. -/
theorem perm_of_ofSettingsIn (horder : ∀ l, (order l).Perm l)
    (h : ofSettingsIn order s fileText = .ok reg) :
    ∃ l, fileMethods? s fileText = some l ∧ reg.methods.Perm (s.methods ++ l) := by
  rw [ofSettingsIn_eq horder] at h
  obtain ⟨inline, hinline, h⟩ := Outcome.bind_eq_ok.1 h
  obtain ⟨file, hfile, h⟩ := Outcome.bind_eq_ok.1 h
  refine ⟨file.methods, ofFile_eq_ok_iff.1 hfile, ?_⟩
  rw [insertAll_eq_ok_iff.1 h, ofMethods_eq_ok_iff.1 hinline]
  exact (horder file.methods).append_left _

/-- A registry is refused where a name comes twice, or where the file has no methods to give. -/
theorem cause_of_ofSettingsIn_eq_error (horder : ∀ l, (order l).Perm l)
    (h : ofSettingsIn order s fileText = .error e) :
    (∃ name, e = .invalidConfig (.duplicateMethod name) ∧
        Repeats (s.methods ++ (fileMethods? s fileText).getD []) name) ∨
      (fileMethods? s fileText = none ∧
        ∃ fault, e = .invalidConfig fault ∧ ∀ name, fault ≠ .duplicateMethod name) := by
  rw [ofSettingsIn_eq horder] at h
  rcases Outcome.bind_eq_error.1 h with h | ⟨inline, hinline, h⟩
  · -- within the settings
    obtain ⟨name, he, htwice⟩ := repeats_of_insertAll_eq_error h
    exact .inl ⟨name, he, htwice.mono (List.sublist_append_left _ _)⟩
  rcases Outcome.bind_eq_error.1 h with h | ⟨file, hfile, h⟩
  · -- within the file
    rcases cause_of_ofFile_eq_error h with ⟨name, l, he, hl, htwice⟩ | hmissing
    · rw [hl]
      exact .inl ⟨name, he, htwice.mono (List.sublist_append_right _ _)⟩
    · exact .inr hmissing
  · -- where the methods of the file join those of the settings
    obtain ⟨name, he, htwice⟩ := repeats_of_insertAll_eq_error h
    rw [ofMethods_eq_ok_iff.1 hinline] at htwice
    rw [ofFile_eq_ok_iff.1 hfile]
    exact .inl ⟨name, he, htwice.perm ((horder file.methods).append_left _)⟩

/-- In whatever order the methods of the file are taken over: a registry is made exactly if the
file, if there is one, lists methods and no name comes twice in the methods of the settings followed
by those of the file.  It holds just these methods.  Otherwise the configuration is invalid, and a
name that is reported as coming twice does. -/
theorem registers_settings_and_file (s : Settings) (fileText : Option String)
    (order : List Method → List Method) (horder : ∀ l, (order l).Perm l) :
    ((∃ reg, ofSettingsIn order s fileText = .ok reg) ↔
      ∃ l, fileMethods? s fileText = some l ∧ ((s.methods ++ l).map (·.name)).Nodup) ∧
    (∀ reg, ofSettingsIn order s fileText = .ok reg →
      ∃ l, fileMethods? s fileText = some l ∧ reg.Holds (s.methods ++ l)) ∧
    ∀ e, ofSettingsIn order s fileText = .error e → ∃ fault, e = .invalidConfig fault ∧
      ∀ name, fault = .duplicateMethod name →
        Repeats (s.methods ++ (fileMethods? s fileText).getD []) name := by
  refine ⟨⟨?_, ?_⟩, fun reg h => ?_, fun e h => ?_⟩
  · rintro ⟨reg, h⟩
    obtain ⟨l, hl, hperm⟩ := perm_of_ofSettingsIn horder h
    exact ⟨l, hl, (hperm.map _).nodup reg.distinct⟩
  · rintro ⟨l, hl, hnodup⟩
    cases h : ofSettingsIn order s fileText with
    | ok reg => exact ⟨reg, rfl⟩
    | error e =>
        rcases cause_of_ofSettingsIn_eq_error horder h with ⟨name, -, htwice⟩ | ⟨hnone, -⟩
        · rw [hl] at htwice
          exact absurd hnodup htwice.not_nodup
        · rw [hl] at hnone
          cases hnone
  · obtain ⟨l, hl, hperm⟩ := perm_of_ofSettingsIn horder h
    exact ⟨l, hl, holds_of_perm hperm⟩
  · rcases cause_of_ofSettingsIn_eq_error horder h with
      ⟨name, rfl, htwice⟩ | ⟨-, fault, rfl, hfault⟩
    · refine ⟨_, rfl, fun name' hname => ?_⟩
      cases hname
      exact htwice
    · exact ⟨fault, rfl, fun name hname => absurd hname (hfault name)⟩

/-- Two methods of a file join one of the settings in the opposite order. -/
theorem registers_duo_and_listed :
    let s : Settings := { methods := [⟨"duo", 1⟩], methodsFile := some "methods.json" }
    let fileText := some "[[\"otp\", 2], [\"app\", 3]]"
    (∀ l : List Method, l.reverse.Perm l) ∧
      fileMethods? s fileText = some [⟨"otp", 2⟩, ⟨"app", 3⟩] ∧
      ∃ reg, ofSettingsIn List.reverse s fileText = .ok reg ∧
        reg.Holds [⟨"duo", 1⟩, ⟨"otp", 2⟩, ⟨"app", 3⟩] := by
  intro s fileText
  have hlisted : fileMethods? s fileText = some [⟨"otp", 2⟩, ⟨"app", 3⟩] := by
    decide +kernel
  obtain ⟨hmade, hholds, -⟩ :=
    registers_settings_and_file s fileText List.reverse fun l => List.reverse_perm l
  obtain ⟨reg, hreg⟩ := hmade.2 ⟨_, hlisted, by decide⟩
  obtain ⟨l, hl, hreg'⟩ := hholds reg hreg
  rw [hlisted] at hl
  cases hl
  exact ⟨fun l => List.reverse_perm l, hlisted, reg, hreg, hreg'⟩

end StepUp.Registry
