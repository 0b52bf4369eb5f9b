import StepUp.Json.Basic

/-!
# Reading structures out of JSON values

A structure is written as an object of its fields or as an array of them in their order.  A
`Record` tells for each field what the value says about it; the readers of the fields then decide
what an absent field means.  In an array a field can only be absent at the end, and there only a
field with a default may be.
-/

namespace StepUp.Json

/-- Why a value does not have the form that was expected. -/
inductive ReadError where
  | wrongType (expected : String)
  | missingField (name : String)
  | unknownField (name : String)
  | repeatedField (name : String)
  | surplusElement
  | unknownVariant (name : String)
  | outOfRange
  | badTimestamp
deriving DecidableEq, Repr

/-- The outcome of reading. -/
abbrev Read (α : Type) := Except ReadError α

/-- What a value says about one field of a structure. -/
inductive Slot where
  | given (v : Json)
  | unnamed
  | beyondEnd

/-- A structure as it was written. -/
structure Record where
  slot : String → Slot

/-- The slot of a field among the members of an object. -/
def memberSlot (members : List (String × Json)) (name : String) : Slot :=
  match Text.find? name members with
  | some v => .given v
  | none => .unnamed

/-- The slot of a field in an array, by the place of its name among the names of the fields. -/
def itemSlot (names : List String) (items : List Json) (name : String) : Slot :=
  match items[names.idxOf name]? with
  | some v => .given v
  | none => .beyondEnd

/-- The structure with the given fields that a value writes.  No field may come twice, and where
`strict` holds no other member may come at all. -/
def record (names : List String) (strict : Bool) : Json → Read Record
  | .obj members =>
    match (members.find? fun e => strict && !names.contains e.1),
      names.find? fun name => 1 < members.countP fun e => e.1 == name with
    | some e, _ => .error (.unknownField e.1)
    | none, some name => .error (.repeatedField name)
    | none, none => .ok ⟨memberSlot members⟩
  | .arr items =>
    if names.length < items.length then .error .surplusElement else .ok ⟨itemSlot names items⟩
  | _ => .error (.wrongType "structure")

namespace Record

variable {α : Type}

/-- A field that has to be there. -/
def required (r : Record) (name : String) (read : Json → Read α) : Read α :=
  match r.slot name with
  | .given v => read v
  | .unnamed | .beyondEnd => .error (.missingField name)

/-- A field with a default. -/
def orElse (r : Record) (name : String) (default : α) (read : Json → Read α) : Read α :=
  match r.slot name with
  | .given v => read v
  | .unnamed | .beyondEnd => .ok default

end Record

/-! ## Parts -/

/-- A text. -/
def readText : Json → Read String
  | .str s => .ok s
  | _ => .error (.wrongType "text")

/-- A truth value. -/
def readBool : Json → Read Bool
  | .bool b => .ok b
  | _ => .error (.wrongType "truth value")

/-- A whole number of thirty-two bits. -/
def readInt32 : Json → Read Int32
  | .int i =>
    if Int32.minValue.toInt ≤ i ∧ i ≤ Int32.maxValue.toInt then .ok (Int32.ofInt i)
    else .error .outOfRange
  | _ => .error (.wrongType "whole number")

/-- A value that may be null. -/
def readOption {α : Type} (read : Json → Read α) : Json → Read (Option α)
  | .null => .ok none
  | v => (read v).map some

/-- A list of values. -/
def readList {α : Type} (read : Json → Read α) : Json → Read (List α)
  | .arr items => items.mapM read
  | _ => .error (.wrongType "list")

/-- The name of a variant without content: a text, or an object with null under the name. -/
def readVariantName : Json → Read String
  | .str s => .ok s
  | .obj [(name, .null)] => .ok name
  | _ => .error (.wrongType "variant")

/-- A field that is null when an object does not name it, and that an array has to hold. -/
def Record.optional {α : Type} (r : Record) (name : String) (read : Json → Read α) :
    Read (Option α) :=
  match r.slot name with
  | .given v => readOption read v
  | .unnamed => .ok none
  | .beyondEnd => .error (.missingField name)

/-- A text or null. -/
def ofText? : Option String → Json
  | some s => .str s
  | none => .null

end StepUp.Json
