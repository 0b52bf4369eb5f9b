import Mathlib.Data.List.Nodup
import StepUp.Login.Authentication
import StepUp.Login.Decision
import StepUp.Settings.Basic

/-!
# What is written reads back

Every model has a JSON form, and a reader that takes more than this form: members in any order,
arrays in the place of objects, fields left out.  This file shows that the reader takes the written
form too, and makes the same model of it in every part (`written_forms_read_back`).

A structure is written as an object of all its fields, each once and none besides.  Such an object
is a record that gives every field its own value (`Json.record_obj`), so of each model only the
readers of its fields are left to compare with their writers.  `Json.ReadsBack` is what has to hold
of one writer and one reader.

An instant is written as text.  Only that text is said of it here: what an authentication reads back
as follows from what its instant reads back as.
-/

namespace StepUp

namespace Json

variable {α β : Type}

/-- A reader makes of what is written the value that was written. -/
def ReadsBack (write : α → Json) (read : Json → Read α) : Prop :=
  ∀ a, read (write a) = .ok a

theorem ok_bind (a : α) (f : α → Read β) : (Except.ok a >>= f) = f a :=
  rfl

/-! ## Parts -/

theorem readsBack_int32 : ReadsBack (fun i : Int32 => .int i.toInt) readInt32 := by
  intro i
  have hlower : Int32.minValue.toInt ≤ i.toInt := Int32.le_iff_toInt_le.1 (Int32.minValue_le i)
  have hupper : i.toInt ≤ Int32.maxValue.toInt := Int32.le_iff_toInt_le.1 (Int32.le_maxValue i)
  change (if _ ∧ _ then Except.ok (Int32.ofInt i.toInt) else _) = .ok i
  rw [if_pos ⟨hlower, hupper⟩, Int32.ofInt_toInt]

theorem readsBack_ofText? : ReadsBack ofText? (readOption readText) := by
  intro o
  cases o <;> rfl

/-- What is not null is not taken for a missing value. -/
theorem readOption_of_ne_null {read : Json → Read α} {v : Json} (h : v ≠ .null) :
    readOption read v = (read v).map some := by
  unfold readOption
  split
  next => exact absurd rfl h
  next => rfl

theorem ReadsBack.list {write : α → Json} {read : Json → Read α} (h : ReadsBack write read) :
    ReadsBack (fun l => .arr (l.map write)) (readList read) := by
  intro l
  simp only [readList]
  induction l with
  | nil => rfl
  | cons a rest ih =>
      rw [List.map_cons, List.mapM_cons, h a, ih]
      rfl

/-! ## Records -/

/-- An object that names known fields only, and none twice, is a record of its members. -/
theorem record_obj {names : List String} {strict : Bool} {members : List (String × Json)}
    (hdistinct : (members.map (·.1)).Nodup) (hknown : ∀ k ∈ members.map (·.1), k ∈ names) :
    record names strict (.obj members) = .ok ⟨memberSlot members⟩ := by
  -- no member is one too many
  have hextra : (members.find? fun e => strict && !names.contains e.1) = none := by
    refine List.find?_eq_none.2 fun e he => ?_
    simp [hknown e.1 (List.mem_map_of_mem he)]
  -- and no field is given twice
  have honce : (names.find? fun name => 1 < members.countP fun e => e.1 == name) = none := by
    refine List.find?_eq_none.2 fun name _ => ?_
    have hcount := List.nodup_iff_count_le_one.1 hdistinct name
    rw [List.count, List.countP_map] at hcount
    simpa [Function.comp_def] using hcount
  simp only [record, hextra, honce]

@[simp] theorem memberSlot_cons (k : String) (v : Json) (rest : List (String × Json))
    (name : String) :
    memberSlot ((k, v) :: rest) name = if name = k then .given v else memberSlot rest name := by
  by_cases h : name = k <;> simp [memberSlot, Text.find?, h]

end Json

open Json

/-! ## Methods and the requests for them -/

theorem Method.readsBack : ReadsBack Method.toJson Method.ofJson := by
  intro m
  rw [Method.ofJson, Method.toJson, record_obj (by simp) (by simp)]
  simp [ok_bind, Record.required, readText, readsBack_int32 m.rank]

theorem MethodSource.readsBack : ReadsBack MethodSource.toJson MethodSource.ofJson := by
  intro s
  cases s <;> rfl

theorem MethodRequest.readsBack : ReadsBack MethodRequest.toJson MethodRequest.ofJson := by
  intro r
  rw [MethodRequest.ofJson, MethodRequest.toJson, record_obj (by simp) (by simp)]
  simp [ok_bind, Record.required, readText, MethodSource.readsBack r.source]

theorem Decision.readsBack : ReadsBack Decision.toJson Decision.ofJson := by
  intro d
  cases d with
  | continueNormally => rfl
  | requireMethod r =>
      change (MethodRequest.ofJson r.toJson).map requireMethod = _
      rw [MethodRequest.readsBack r]
      rfl

/-! ## Principals and authentications -/

/-- Attributes are in order and normal, so nothing of them changes. -/
theorem Attributes.readsBack : ReadsBack Attributes.toJson Attributes.ofJson := by
  intro a
  change Except.ok (ofMembers a.entries) = .ok a
  refine congrArg Except.ok (eq_of_entries ?_)
  change Text.putAll (normalizeMembers a.entries) = a.entries
  rw [normalizeMembers_eq_self _ a.normal.2, Text.putAll_of_ascending a.normal.1]

theorem Principal.readsBack : ReadsBack Principal.toJson Principal.ofJson := by
  intro p
  rw [Principal.ofJson, Principal.toJson, record_obj (by simp) (by simp)]
  simp [ok_bind, Record.required, Record.orElse, readText, Attributes.readsBack p.attributes]

/-- An authentication reads back with the instant that its text stands for. -/
theorem Authentication.ofJson_toJson (a : Authentication) :
    Authentication.ofJson a.toJson = (readTimestamp (.str a.authenticatedAt.text)).map
      fun t => { a with authenticatedAt := t } := by
  rw [Authentication.ofJson, Authentication.toJson, record_obj (by simp) (by simp)]
  cases h : readTimestamp (.str a.authenticatedAt.text) <;>
    simp [ok_bind, Record.required, Record.orElse, Principal.readsBack a.principal,
      Attributes.readsBack a.attributes, h, Except.map]

theorem Authentication.readsBack_iff (a : Authentication) :
    Authentication.ofJson a.toJson = .ok a ↔
      Time.Timestamp.parse? a.authenticatedAt.text = some a.authenticatedAt := by
  rw [a.ofJson_toJson, readTimestamp]
  cases Time.Timestamp.parse? a.authenticatedAt.text with
  | none => simp [Except.map]
  | some t =>
      have hsame : { a with authenticatedAt := t } = a ↔ t = a.authenticatedAt := by
        cases a
        simp
      simp [Except.map, hsame]

/-! ## Login requests and services -/

theorem LoginRequest.readsBack : ReadsBack LoginRequest.toJson LoginRequest.ofJson := by
  intro r
  rw [LoginRequest.ofJson, LoginRequest.toJson, record_obj (by simp) (by simp)]
  simp [ok_bind, Record.required, Record.orElse, readText, readBool,
    readsBack_ofText? r.authnMethod, readsBack_ofText? r.sessionId]

theorem RoleRule.readsBack : ReadsBack RoleRule.toJson RoleRule.ofJson := by
  intro r
  rw [RoleRule.ofJson, RoleRule.toJson, record_obj (by simp) (by simp)]
  simp [ok_bind, Record.optional, readsBack_ofText? r.attributeName,
    readsBack_ofText? r.attributePattern]

theorem RoleRule.readOption_toJson (r : RoleRule) :
    readOption RoleRule.ofJson r.toJson = .ok (some r) := by
  rw [readOption_of_ne_null (by simp [RoleRule.toJson]), RoleRule.readsBack r]
  rfl

theorem RegisteredService.readsBack :
    ReadsBack RegisteredService.toJson RegisteredService.ofJson := by
  intro s
  obtain ⟨id, authnMethod, roleRule⟩ := s
  rw [RegisteredService.ofJson, RegisteredService.toJson, record_obj (by simp) (by simp)]
  cases roleRule with
  | none =>
      have hnull : readOption RoleRule.ofJson .null = .ok none := rfl
      simp [ok_bind, Record.required, Record.orElse, readText, readsBack_ofText? authnMethod, hnull]
  | some rule =>
      -- a rule is written as an object, so it is not taken for a missing one
      simp [ok_bind, Record.required, Record.orElse, readText, readsBack_ofText? authnMethod,
        rule.readOption_toJson]

/-! ## Settings -/

theorem readsBack_texts :
    ReadsBack (fun l : List String => .arr (l.map .str)) (readList readText) :=
  ReadsBack.list fun _ => rfl

theorem StaticMapping.readsBack : ReadsBack StaticMapping.toJson StaticMapping.ofJson := by
  intro m
  rw [StaticMapping.ofJson, StaticMapping.toJson, record_obj (by simp) (by simp)]
  simp [ok_bind, Record.required, readText, readsBack_texts m.values]

theorem RegexMapping.readsBack : ReadsBack RegexMapping.toJson RegexMapping.ofJson := by
  intro m
  rw [RegexMapping.ofJson, RegexMapping.toJson, record_obj (by simp) (by simp)]
  simp [ok_bind, Record.required, readText]

namespace TranslatorSettings

/-- What is left of a static translator without its kind. -/
theorem splitKind_static (mappings : List StaticMapping) (ignore : Bool) :
    splitKind (static mappings ignore).toJson = .ok ("static",
      .obj [("ignore_if_no_match", .bool ignore),
        ("mappings", .arr (mappings.map StaticMapping.toJson))]) :=
  rfl

/-- What is left of a translator by patterns without its kind. -/
theorem splitKind_regex (mappings : List RegexMapping) (ignore : Bool)
    (defaultMethod : Option String) :
    splitKind (regex mappings ignore defaultMethod).toJson = .ok ("regex",
      .obj [("default_method", ofText? defaultMethod), ("ignore_if_no_match", .bool ignore),
        ("mappings", .arr (mappings.map RegexMapping.toJson))]) :=
  rfl

theorem readsBack : ReadsBack toJson ofJson := by
  intro t
  cases t with
  | passthrough => rfl
  | static mappings ignore =>
      -- the kind is taken out first, since a strict record does not know it
      simp only [ofJson, splitKind_static, ok_bind]
      rw [record_obj (by simp) (by simp)]
      simp [ok_bind, Record.required, Record.orElse, readBool,
        StaticMapping.readsBack.list mappings]
  | regex mappings ignore defaultMethod =>
      simp only [ofJson, splitKind_regex, ok_bind]
      rw [record_obj (by simp) (by simp)]
      simp [ok_bind, Record.required, Record.orElse, readBool, RegexMapping.readsBack.list mappings,
        readsBack_ofText? defaultMethod]

end TranslatorSettings

theorem ResolverKind.readsBack : ReadsBack ResolverKind.toJson ResolverKind.ofJson := by
  intro k
  cases k <;> rfl

theorem Settings.readsBack : ReadsBack Settings.toJson Settings.ofJson := by
  intro s
  rw [Settings.ofJson, Settings.toJson, record_obj (by simp) (by simp [fieldNames])]
  simp [ok_bind, Record.orElse, readText, readsBack_ofText? s.methodsFile,
    readsBack_ofText? s.defaultMethod, Method.readsBack.list s.methods,
    ResolverKind.readsBack.list s.resolvers, RegisteredService.readsBack.list s.services,
    TranslatorSettings.readsBack s.translator]

/-! ## All models -/

/-- Every model reads back from its written form, in all of its parts.  An authentication does with
the instant that the text of its own stands for, so it reads back as it was exactly if that text
gives its instant back. -/
theorem written_forms_read_back :
    ReadsBack Method.toJson Method.ofJson ∧
    ReadsBack MethodRequest.toJson MethodRequest.ofJson ∧
    ReadsBack Principal.toJson Principal.ofJson ∧
    ReadsBack RoleRule.toJson RoleRule.ofJson ∧
    ReadsBack RegisteredService.toJson RegisteredService.ofJson ∧
    ReadsBack LoginRequest.toJson LoginRequest.ofJson ∧
    ReadsBack Decision.toJson Decision.ofJson ∧
    ReadsBack TranslatorSettings.toJson TranslatorSettings.ofJson ∧
    ReadsBack Settings.toJson Settings.ofJson ∧
    ∀ a : Authentication,
      Authentication.ofJson a.toJson =
        (Authentication.readTimestamp (.str a.authenticatedAt.text)).map
          (fun t => { a with authenticatedAt := t }) ∧
      (Authentication.ofJson a.toJson = .ok a ↔
        Time.Timestamp.parse? a.authenticatedAt.text = some a.authenticatedAt) :=
  ⟨Method.readsBack, MethodRequest.readsBack, Principal.readsBack, RoleRule.readsBack,
    RegisteredService.readsBack, LoginRequest.readsBack, Decision.readsBack,
    TranslatorSettings.readsBack, Settings.readsBack,
    fun a => ⟨a.ofJson_toJson, a.readsBack_iff⟩⟩

end StepUp
