import StepUp.Decimal.Binary64
import StepUp.Text.KeyedList

/-!
# JSON values

The values that attributes hold.  A number written without fraction and exponent is an integer, any
other a double, and the two are never equal.  An object is a list of members; a value is *normal*
when in every object in it the keys ascend, which is the form in which two values with the same
content are the same term.  `normalize` brings every value into it and leaves normal ones alone.
-/

namespace StepUp

open Decimal (Binary64)

/-- A JSON value. -/
inductive Json where
  | null
  | bool (b : Bool)
  | int (i : Int)
  | float (d : Binary64)
  | str (s : String)
  | arr (items : List Json)
  | obj (members : List (String × Json))
deriving Inhabited

namespace Json

/-- The text, if the value is one. -/
def asStr? : Json → Option String
  | .str s => some s
  | _ => none

/-! ## Equality of values

Doubles are compared as numbers, so the two zeros are one value; everything else is compared by
its parts, and the members of objects in their order. -/

mutual

/-- Equality of two values. -/
def same : Json → Json → Bool
  | .null, .null => true
  | .bool a, .bool b => a == b
  | .int a, .int b => a == b
  | .float a, .float b => a.same b
  | .str a, .str b => a == b
  | .arr a, .arr b => sameItems a b
  | .obj a, .obj b => sameMembers a b
  | _, _ => false

/-- Equality of two lists of values, place by place. -/
def sameItems : List Json → List Json → Bool
  | [], [] => true
  | a :: r, b :: s => same a b && sameItems r s
  | _, _ => false

/-- Equality of two lists of members, place by place. -/
def sameMembers : List (String × Json) → List (String × Json) → Bool
  | [], [] => true
  | (k, a) :: r, (l, b) :: s => k == l && same a b && sameMembers r s
  | _, _ => false

end

/-! ## Normal values -/

mutual

/-- The value with the keys of every object in ascending order, the last member of a key kept. -/
def normalize : Json → Json
  | .arr items => .arr (normalizeItems items)
  | .obj members => .obj (Text.putAll (normalizeMembers members))
  | v => v

/-- The items of a list, each brought into normal form. -/
def normalizeItems : List Json → List Json
  | [] => []
  | v :: rest => normalize v :: normalizeItems rest

/-- The members of a list in their order, each value brought into normal form. -/
def normalizeMembers : List (String × Json) → List (String × Json)
  | [] => []
  | (k, v) :: rest => (k, normalize v) :: normalizeMembers rest

end

mutual

/-- Whether in every object of the value the keys ascend. -/
def Normal : Json → Prop
  | .arr items => NormalItems items
  | .obj members => Text.Ascending members ∧ NormalMembers members
  | _ => True

/-- Whether every value of a list is normal. -/
def NormalItems : List Json → Prop
  | [] => True
  | v :: rest => Normal v ∧ NormalItems rest

/-- Whether the value of every member of a list is normal. -/
def NormalMembers : List (String × Json) → Prop
  | [] => True
  | (_, v) :: rest => Normal v ∧ NormalMembers rest

end

theorem normalItems_iff {items : List Json} : NormalItems items ↔ ∀ v ∈ items, v.Normal := by
  induction items with
  | nil => simp [NormalItems]
  | cons v r ih => simp [NormalItems, ih]

theorem normalMembers_iff {members : List (String × Json)} :
    NormalMembers members ↔ ∀ e ∈ members, e.2.Normal := by
  induction members with
  | nil => simp [NormalMembers]
  | cons e r ih => simp [NormalMembers, ih]

mutual

/-- Every value has a normal form. -/
theorem normal_normalize : (v : Json) → v.normalize.Normal
  | .null | .bool _ | .int _ | .float _ | .str _ => trivial
  | .arr items => normalItems_normalizeItems items
  | .obj members =>
    ⟨Text.ascending_putAll _, normalMembers_iff.2 fun e he =>
      normalMembers_iff.1 (normalMembers_normalizeMembers members) e (Text.mem_of_mem_putAll he)⟩

theorem normalItems_normalizeItems : (items : List Json) → NormalItems (normalizeItems items)
  | [] => trivial
  | v :: rest => ⟨normal_normalize v, normalItems_normalizeItems rest⟩

theorem normalMembers_normalizeMembers :
    (members : List (String × Json)) → NormalMembers (normalizeMembers members)
  | [] => trivial
  | (_, v) :: rest => ⟨normal_normalize v, normalMembers_normalizeMembers rest⟩

end

mutual

/-- A normal value is its own normal form. -/
theorem normalize_eq_self : (v : Json) → v.Normal → v.normalize = v
  | .null, _ | .bool _, _ | .int _, _ | .float _, _ | .str _, _ => rfl
  | .arr items, h => congrArg Json.arr (normalizeItems_eq_self items h)
  | .obj members, h => by
    rw [normalize, normalizeMembers_eq_self members h.2, Text.putAll_of_ascending h.1]

theorem normalizeItems_eq_self : (items : List Json) → NormalItems items →
    normalizeItems items = items
  | [], _ => rfl
  | v :: rest, h => by rw [normalizeItems, normalize_eq_self v h.1, normalizeItems_eq_self rest h.2]

theorem normalizeMembers_eq_self : (members : List (String × Json)) → NormalMembers members →
    normalizeMembers members = members
  | [], _ => rfl
  | (k, v) :: rest, h => by
    rw [normalizeMembers, normalize_eq_self v h.1, normalizeMembers_eq_self rest h.2]

end

end Json

end StepUp
