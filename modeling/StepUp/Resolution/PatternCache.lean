import StepUp.Failure.ServiceError
import StepUp.Regex.Lowering
import StepUp.Regex.Search

/-!
# The cache of compiled patterns

Patterns of translators and role rules match the whole of a value, so each is compiled inside an
anchored group, and the result is kept under the text of the pattern.  A cache holds nothing but
what compiling would give again, which is part of its type; so what a cache answers does not depend
on what was asked of it before, only its size does.
-/

namespace StepUp

variable [Regex.Dialect]

/-- The text of a pattern that has to match the whole of a value. -/
def anchoredText (pattern : String) : String :=
  "\\A(?:" ++ pattern ++ ")\\z"

/-- The expression of a pattern that has to match the whole of a value. -/
def compileAnchored (pattern : String) : Except Regex.Fault Regex :=
  Regex.compile (anchoredText pattern)

/-- Compiled patterns under their texts. -/
structure PatternCache where
  compiled : List (String × Regex)
  sound : ∀ e ∈ compiled, compileAnchored e.1 = .ok e.2
  distinct : (compiled.map (·.1)).Nodup

namespace PatternCache

/-- The cache in the beginning. -/
def empty : PatternCache := ⟨[], by simp, by simp⟩

instance : Inhabited PatternCache := ⟨empty⟩

/-- The number of patterns in the cache. -/
def size (c : PatternCache) : Nat :=
  c.compiled.length

/-- What is kept for a pattern. -/
def find? (c : PatternCache) (pattern : String) : Option (String × Regex) :=
  c.compiled.find? fun e => e.1 == pattern

/-- The cache with a pattern more that is not in it. -/
def insert (c : PatternCache) (pattern : String) (r : Regex)
    (compiles : compileAnchored pattern = .ok r) (absent : c.find? pattern = none) :
    PatternCache where
  compiled := c.compiled ++ [(pattern, r)]
  sound := by
    intro e he
    rcases List.mem_append.1 he with he | he
    · exact c.sound e he
    · rw [List.mem_singleton.1 he]; exact compiles
  distinct := by
    have hne : ∀ e ∈ c.compiled, e.1 ≠ pattern := by
      intro e he heq
      have := List.find?_eq_none.1 absent e he
      simp [heq] at this
    rw [List.map_append, List.nodup_append]
    refine ⟨c.distinct, by simp, ?_⟩
    intro a ha b hb
    obtain ⟨e, he, rfl⟩ := List.mem_map.1 ha
    simp only [List.map_cons, List.map_nil, List.mem_singleton] at hb
    exact hb ▸ hne e he

end PatternCache

/-- A computation that may use the cache and may fail; the cache stays as it is left. -/
abbrev Cached (α : Type) := ExceptT ServiceError (StateM PatternCache) α

/-- The compiled, anchored form of a pattern, from the cache if it is there. -/
def compiledPattern (pattern : String) : Cached Regex := fun c =>
  match hf : c.find? pattern with
  | some e => (.ok e.2, c)
  | none =>
    match hc : compileAnchored pattern with
    | .ok r => (.ok r, c.insert pattern r hc hf)
    | .error fault => (.error (.invalidPattern pattern fault.message), c)

/-- Whether a pattern matches the whole of a value. -/
def fullMatch (pattern value : String) : Cached Bool := do
  return (← compiledPattern pattern).isMatch value

end StepUp
