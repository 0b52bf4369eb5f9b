import StepUp.Regex.Expr

/-!
# Searching

All positions at which a match can end are found at once, from all positions at which it may begin.
A position is never visited twice within one repetition, so the effort stays bounded by the length
of the text and the size of the expression, however the repetitions are nested.
-/

namespace StepUp.Regex

/-- The union of two ascending lists of positions. -/
def merge : List Nat → List Nat → List Nat
  | [], bs => bs
  | as, [] => as
  | a :: as, b :: bs =>
    if a < b then a :: merge as (b :: bs)
    else if b < a then b :: merge (a :: as) bs
    else a :: merge as bs

/-- The positions of an ascending list that are not in another. -/
def without : List Nat → List Nat → List Nat
  | [], _ => []
  | as, [] => as
  | a :: as, b :: bs =>
    if a < b then a :: without as (b :: bs)
    else if b < a then without (a :: as) bs
    else without as bs

/-- A step taken a number of times; nothing comes of nothing. -/
def stepTimes (step : List Nat → List Nat) : Nat → List Nat → List Nat
  | 0, starts => starts
  | n + 1, starts => if starts.isEmpty then [] else stepTimes step n (step starts)

/-- What at most a number of steps reach, by stepping only from the positions that are new. -/
def stepUpTo (step : List Nat → List Nat) : Nat → (seen new : List Nat) → List Nat
  | 0, seen, _ => seen
  | n + 1, seen, new =>
    if new.isEmpty then seen
    else
      let next := without (step new) seen
      stepUpTo step n (merge seen next) next

/-- The positions at which matches of the expression end that begin at one of the given ones. -/
def ends (text : Array Char) : Regex → List Nat → List Nat
  | empty, starts => starts
  | chars c, starts =>
    starts.filterMap fun i => if text[i]?.any c.contains then some (i + 1) else none
  | look l, starts =>
    starts.filter fun i => l.holds (if i = 0 then none else text[i - 1]?) text[i]?
  | seq a b, starts => ends text b (ends text a starts)
  | alt a b, starts => merge (ends text a starts) (ends text b starts)
  | rep body min max, starts =>
    let first := stepTimes (ends text body) min starts
    let more := match max with
      | some m => m - min
      | none => text.size + 1
    stepUpTo (ends text body) more first first

/-- Whether the expression matches some part of a text. -/
def isMatch (r : Regex) (text : String) : Bool :=
  let chars := text.toList.toArray
  !(ends chars r (List.range (chars.size + 1))).isEmpty

end StepUp.Regex
