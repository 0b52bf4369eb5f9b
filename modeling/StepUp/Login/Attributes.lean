import StepUp.Json.Record
import StepUp.Text.NameSet

/-!
# Attributes

Principals and authentications carry attributes: normal JSON values under names, in ascending order
of the names.  One attribute has a meaning of its own, `authn_method`: on an authentication it
records the methods that were satisfied.  A text there is one method, an array or an object one for
each text it holds, and all else is none.
-/

namespace StepUp

/-- The attribute that records satisfied methods, and by default the one that demands a method. -/
def authnMethodAttribute : String := "authn_method"

/-- Named values, in ascending order of the names. -/
structure Attributes where
  entries : List (String × Json)
  normal : (Json.obj entries).Normal

namespace Attributes

/-- No attribute. -/
def empty : Attributes := ⟨[], List.Pairwise.nil, trivial⟩

instance : Inhabited Attributes := ⟨empty⟩

/-- The value of an attribute. -/
def get? (a : Attributes) (name : String) : Option Json :=
  Text.find? name a.entries

/-- The attributes with one set to the normal form of a value. -/
def insert (a : Attributes) (name : String) (v : Json) : Attributes where
  entries := Text.put name v.normalize a.entries
  normal := by
    refine ⟨a.normal.1.put name _, Json.normalMembers_iff.2 fun e he => ?_⟩
    rcases Text.mem_put he with rfl | he
    · exact v.normal_normalize
    · exact Json.normalMembers_iff.1 a.normal.2 e he

/-- The attributes of a list of members, the last of a name kept. -/
def ofMembers (members : List (String × Json)) : Attributes :=
  ⟨Text.putAll (Json.normalizeMembers members), (Json.obj members).normal_normalize⟩

/-- The JSON form. -/
def toJson (a : Attributes) : Json :=
  .obj a.entries

/-- Reads the JSON form. -/
def ofJson : Json → Json.Read Attributes
  | .obj members => .ok (ofMembers members)
  | _ => .error (.wrongType "attributes")

theorem eq_of_entries {a b : Attributes} (h : a.entries = b.entries) : a = b := by
  cases a; cases b; cases h; rfl

/-- Attributes that answer every look-up alike are equal. -/
theorem ext {a b : Attributes} (h : ∀ name, a.get? name = b.get? name) : a = b :=
  eq_of_entries (a.normal.1.ext b.normal.1 h)

theorem get?_insert (a : Attributes) (name : String) (v : Json) (other : String) :
    (a.insert name v).get? other = if other = name then some v.normalize else a.get? other :=
  Text.find?_put _ _ _ a.normal.1 _

end Attributes

/-! ## What values hold -/

namespace Json

/-- The elements of a value: the items of an array, the values of an object, none of null, and any
other value by itself. -/
def elements : Json → List Json
  | .arr items => items
  | .obj members => members.map (·.2)
  | .null => []
  | v => [v]

/-- The texts that a value holds when it is a text or a list. -/
def texts : Json → List String
  | .str s => [s]
  | .arr items => items.filterMap asStr?
  | _ => []

end Json

/-- The methods that attributes record as satisfied. -/
def Attributes.satisfiedMethods (a : Attributes) : Text.NameSet :=
  match a.get? authnMethodAttribute with
  | some v => Text.NameSet.ofList (v.elements.filterMap Json.asStr?)
  | none => Text.NameSet.empty

end StepUp
