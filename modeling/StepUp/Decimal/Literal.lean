import StepUp.Decimal.Binary64

/-!
# Decimal literals

A number in the widest form that settings take: an optional sign, digits with an optional point
among or around them, and an optional exponent.  A literal is kept as its significant digits and a
power of ten, and the double it stands for is the one nearest to it.
-/

namespace StepUp.Decimal

/-- A signed product of a whole number and a power of ten. -/
structure Literal where
  negative : Bool
  digits : Nat
  exponent : Int
deriving DecidableEq, Repr

namespace Literal

/-- The whole number that a run of decimal digits spells. -/
def spelled (digits : List Char) : Nat :=
  digits.foldl (fun n c => n * 10 + (c.toNat - '0'.toNat)) 0

/-- Whether a sign of minus stands first, and what comes after the sign. -/
def splitSign : List Char → Bool × List Char
  | '-' :: rest => (true, rest)
  | '+' :: rest => (false, rest)
  | cs => (false, cs)

/-- The power of ten after the digits, which are all that comes before the end. -/
def exponent? : List Char → Option Int
  | [] => some 0
  | c :: cs =>
    if c = 'e' ∨ c = 'E' then
      let (negative, digits) := splitSign cs
      if digits.isEmpty || !digits.all Char.isDigit then none
      else some (if negative then -spelled digits else spelled digits)
    else none

/-- Reads a text that is a literal from its first to its last character. -/
def parse? (cs : List Char) : Option Literal := do
  let (negative, cs) := splitSign cs
  let (whole, cs) := cs.span Char.isDigit
  let (fraction, cs) :=
    match cs with
    | '.' :: rest => rest.span Char.isDigit
    | _ => ([], cs)
  if whole.isEmpty && fraction.isEmpty then none
  else
    let exponent ← exponent? cs
    return { negative, digits := spelled (whole ++ fraction),
             exponent := exponent - fraction.length }

/-- No number with more places before its point is a double. -/
def maxPlaces : Nat := 400

/-- The double nearest to the literal, unless that is beyond the largest one.  The number of places
decides where the value is far too large or too small, so that no power is ever huge. -/
def double? (l : Literal) : Option Binary64 :=
  let places : Int := (Nat.toDigits 10 l.digits).length + l.exponent
  let magnitude :=
    if l.digits = 0 ∨ places < -(maxPlaces : Int) then some 0
    else if (maxPlaces : Int) < places then none
    else Binary64.nearest? (l.digits * Nat.pow 10 l.exponent.toNat) (Nat.pow 10 (-l.exponent).toNat)
  magnitude.map fun m => .ofMagnitude l.negative m

end Literal

/-- The infinite double of either sign. -/
def Binary64.infinity (negative : Bool) : Binary64 :=
  .ofMagnitude negative (0x7FF * Nat.pow 2 52)

/-- A double that is not a number. -/
def Binary64.notANumber : Binary64 :=
  .ofMagnitude false (0x7FF * Nat.pow 2 52 + Nat.pow 2 51)

end StepUp.Decimal
