import StepUp.Json.Record

/-!
# Authentication methods

A method is known by its name, and its rank says how strong it is: the lower, the stronger.
-/

namespace StepUp

/-- A way to authenticate, with its strength. -/
structure Method where
  name : String
  rank : Int32
deriving DecidableEq, Repr

namespace Method

/-- Whether two entries name the same method, whatever their ranks. -/
def sameMethod (a b : Method) : Bool :=
  a.name == b.name

/-- Whether `a` is strictly stronger than `b`. -/
def isStrongerThan (a b : Method) : Bool :=
  a.rank < b.rank

/-- Whether `a` is at least as strong as `b`. -/
def isAtLeastAsStrongAs (a b : Method) : Bool :=
  a.rank ≤ b.rank

/-- The JSON form. -/
def toJson (m : Method) : Json :=
  .obj [("name", .str m.name), ("rank", .int m.rank.toInt)]

/-- Reads the JSON form. -/
def ofJson (v : Json) : Json.Read Method := do
  let r ← Json.record ["name", "rank"] true v
  return { name := ← r.required "name" Json.readText, rank := ← r.required "rank" Json.readInt32 }

end Method

end StepUp
