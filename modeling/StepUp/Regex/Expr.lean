import StepUp.Regex.CharClass

/-!
# Expressions and what they match

A pattern without its surface: characters, assertions, and the three ways to combine patterns.
`Matches` says what an expression matches between two positions of a text.  Repetitions are built
by `iterate`, which matches the same but does not count what takes no characters.
-/

namespace StepUp

namespace Regex

/-- An assertion about a position, with its flags applied. -/
inductive Look where
  | textStart | textEnd
  | lineStart | lineEnd
  | crlfStart | crlfEnd
  | word (side : WordSide) (unicode : Bool)
deriving DecidableEq, Repr

namespace Look

/-- Whether a boundary of words has the side that is looked for, by whether the characters before
and after it belong to words. -/
def sideHolds (before after : Bool) : WordSide → Bool
  | .boundary => before != after
  | .noBoundary => before == after
  | .start => !before && after
  | .stop => before && !after
  | .startHalf => !before
  | .stopHalf => !after

/-- Whether the assertion holds between two characters; `none` is an end of the text. -/
def holds (before after : Option Char) : Look → Bool
  | textStart => before.isNone
  | textEnd => after.isNone
  | lineStart => before.all (· == '\n')
  | lineEnd => after.all (· == '\n')
  | crlfStart =>
    before.all fun c => c == '\n' || (c == '\r' && after != some '\n')
  | crlfEnd =>
    after.all fun c => c == '\r' || (c == '\n' && before != some '\r')
  | word side unicode =>
    let isWord : Char → Bool :=
      if unicode then Unicode.isWord else fun c => c.isAlphanum || c == '_'
    sideHolds (before.any isWord) (after.any isWord) side

end Look

end Regex

/-- A regular expression. -/
inductive Regex where
  | empty
  | chars (c : Regex.CharClass)
  | look (l : Regex.Look)
  | seq (a b : Regex)
  | alt (a b : Regex)
  | rep (body : Regex) (min : Nat) (max : Option Nat)

namespace Regex

/-- The character before a position. -/
def before (text : List Char) (i : Nat) : Option Char :=
  if i = 0 then none else text[i - 1]?

/-- A relation between positions, followed a number of times. -/
inductive Times (R : Nat → Nat → Prop) : Nat → Nat → Nat → Prop where
  | zero {i} : Times R 0 i i
  | succ {n i j k} : R i j → Times R n j k → Times R (n + 1) i k

/-- The expression matches the part of the text between two positions. -/
def Matches (text : List Char) : Regex → Nat → Nat → Prop
  | empty, i, j => i = j
  | chars c, i, j => j = i + 1 ∧ ∃ ch, text[i]? = some ch ∧ c.contains ch = true
  | look l, i, j => i = j ∧ l.holds (before text i) text[i]? = true
  | seq a b, i, k => ∃ j, Matches text a i j ∧ Matches text b j k
  | alt a b, i, j => Matches text a i j ∨ Matches text b i j
  | rep body min max, i, j =>
    ∃ n, min ≤ n ∧ (∀ m ∈ max, n ≤ m) ∧ Times (Matches text body) n i j

/-- Whether the expression never takes a character, as its form tells. -/
def takesNothing : Regex → Bool
  | empty | look _ => true
  | chars _ => false
  | seq a b | alt a b => a.takesNothing && b.takesNothing
  | rep body _ max => body.takesNothing || max == some 0

/-- The expression repeated.  Once is as good as often for what takes no characters. -/
def iterate (body : Regex) (least : Nat) (most : Option Nat) : Regex :=
  if body.takesNothing then rep body (min least 1) (some (min (most.getD 1) 1))
  else rep body least most

theorem Times.eq {R : Nat → Nat → Prop} (hR : ∀ i j, R i j → i = j) {n i j : Nat}
    (h : Times R n i j) : i = j := by
  induction h with
  | zero => rfl
  | succ hij _ ih => exact (hR _ _ hij).trans ih

theorem Times.of_loop {R : Nat → Nat → Prop} {i : Nat} (h : R i i) : ∀ n, Times R n i i
  | 0 => .zero
  | n + 1 => .succ h (Times.of_loop h n)

/-- What takes no characters matches only between a position and itself. -/
theorem eq_of_takesNothing {text : List Char} {r : Regex} (h : r.takesNothing = true) {i j : Nat}
    (hm : Matches text r i j) : i = j := by
  induction r generalizing i j with
  | empty => exact hm
  | chars c => simp [takesNothing] at h
  | look l => exact hm.1
  | seq a b iha ihb =>
    simp only [takesNothing, Bool.and_eq_true] at h
    obtain ⟨k, ha, hb⟩ := hm
    exact (iha h.1 ha).trans (ihb h.2 hb)
  | alt a b iha ihb =>
    simp only [takesNothing, Bool.and_eq_true] at h
    exact hm.elim (iha h.1) (ihb h.2)
  | rep body min max ih =>
    simp only [takesNothing, Bool.or_eq_true, beq_iff_eq] at h
    obtain ⟨n, _, hmax, ht⟩ := hm
    rcases h with h | rfl
    · exact ht.eq fun _ _ hb => ih h hb
    · cases Nat.le_zero.1 (hmax 0 rfl)
      cases ht
      rfl

/-- Repeating an expression by `iterate` matches what the repetition matches. -/
theorem matches_iterate {text : List Char} {body : Regex} {least : Nat} {most : Option Nat}
    (bounds : ∀ m ∈ most, least ≤ m) {i j : Nat} :
    Matches text (body.iterate least most) i j ↔ Matches text (rep body least most) i j := by
  unfold iterate
  split
  next h =>
    have stays : ∀ i j, Matches text body i j → i = j := fun _ _ => eq_of_takesNothing h
    constructor
    · rintro ⟨n, hmin, _, ht⟩
      cases ht.eq stays
      refine ⟨least, Nat.le_refl _, bounds, ?_⟩
      cases ht with
      | zero =>
        have : least = 0 := by omega
        subst this; exact .zero
      | succ hb _ =>
        cases stays _ _ hb
        exact .of_loop hb _
    · rintro ⟨n, hmin, hmax, ht⟩
      cases ht.eq stays
      refine ⟨min least 1, Nat.le_refl _, ?_, ?_⟩
      · intro m hm
        cases hm
        cases most with
        | none => exact Nat.min_le_right _ _
        | some m =>
          have := bounds m rfl
          simp only [Option.getD_some]
          omega
      · cases ht with
        | zero =>
          have : least = 0 := by omega
          subst this; exact .zero
        | succ hb _ =>
          cases stays _ _ hb
          exact .of_loop hb _
  next => exact Iff.rfl

/-- How many states an automaton for the expression would have, about. -/
def size : Regex → Nat
  | empty => 1
  | chars c => c.weight
  | look _ => 1
  | seq a b => a.size + b.size
  | alt a b => a.size + b.size + 2
  | rep body min none => body.size * max min 1 + 3
  | rep body min (some max) => body.size * max + (max - min) + 1

end Regex

end StepUp
