import StepUp.Regex.Expr

/-!
# Dialects of patterns

The syntax of patterns and what an expression matches are fixed.  Two things are up to the engine
that compiles them: which Unicode properties it has tables for, and how large an expression may
become.  Everything that compiles a pattern is stated for any such dialect, and the instance here is
the one that runs where no other is given.
-/

namespace StepUp.Regex

/-- What an engine adds to the syntax of patterns. -/
class Dialect where
  /-- The test that a query asks for, if the engine knows the property. -/
  query? : UnicodeQuery → Option (Char → Bool)
  /-- Whether an expression is within the limit on compiled patterns. -/
  fits : Regex → Bool
  /-- A sequence is not smaller than what it is made of. -/
  fits_of_seq {a b : Regex} : fits (.seq a b) = true → fits a = true ∧ fits b = true

/-- The greatest size of an expression: as many states of thirty-two bytes as ten mebibytes hold. -/
def maxSize : Nat := 10 * Nat.pow 2 20 / 32

/-- The general categories, the scripts and the properties that there are tables for, and a limit on
the estimated number of states.  Other properties, such as ages and those that segment a text, have
no answer here. -/
instance Dialect.standard : Dialect where
  query? := UnicodeQuery.test?
  fits r := r.size ≤ maxSize
  fits_of_seq {a b} h := by
    have hsize : a.size + b.size ≤ maxSize := of_decide_eq_true h
    exact ⟨decide_eq_true (by omega), decide_eq_true (by omega)⟩

end StepUp.Regex
