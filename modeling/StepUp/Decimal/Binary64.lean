/-!
# Doubles in exact arithmetic

A finite double is kept as its sixty-four bits, and everything done with it is exact arithmetic on
natural numbers: a ratio is rounded to the nearest double, a half going to the even neighbour, and
a product or a quotient is the rounded ratio of the exact values.  Nothing here uses the processor's
own floating point, so all of it can be evaluated and reasoned about.
-/

namespace StepUp.Decimal

/-- A double, by its bits: sign, eleven bits of exponent, fifty-two of fraction. -/
structure Binary64 where
  bits : UInt64
deriving DecidableEq, Repr, Inhabited

namespace Binary64

/-- The bits without the sign. -/
def magnitude (d : Binary64) : Nat :=
  d.bits.toNat % Nat.pow 2 63

/-- Whether the sign bit is set; it is for negative zero. -/
def negative (d : Binary64) : Bool :=
  Nat.pow 2 63 ≤ d.bits.toNat

/-- Zero of either sign. -/
def isZero (d : Binary64) : Bool :=
  d.magnitude == 0

/-- Equality of the numbers that two doubles stand for: the two zeros are equal. -/
def same (a b : Binary64) : Bool :=
  a == b || (a.isZero && b.isZero)

/-- A double from its bits without the sign, and its sign. -/
def ofMagnitude (negative : Bool) (magnitude : Nat) : Binary64 :=
  ⟨UInt64.ofNat ((if negative then Nat.pow 2 63 else 0) + magnitude)⟩

/-- The pair `(m, e)` with absolute value `m * 2 ^ e`. -/
def scaled (magnitude : Nat) : Nat × Int :=
  let exponent := magnitude / Nat.pow 2 52
  let fraction := magnitude % Nat.pow 2 52
  if exponent = 0 then (fraction, -1074) else (Nat.pow 2 52 + fraction, Int.ofNat exponent - 1075)

/-! ## Rounding -/

/-- The quotient of two numbers, rounded to the nearest whole number, a half to the even one. -/
def roundDiv (num den : Nat) : Nat :=
  let q := num / den
  let twice := 2 * (num % den)
  if twice < den then q
  else if den < twice then q + 1
  else if q % 2 = 0 then q else q + 1

/-- The exponent at which `num / den` has fifty-three bits, no less than that of the least double.
The logarithms fix it up to one, and the comparison settles which. -/
def exponentOf (num den : Nat) : Int :=
  let guess : Int := (num.log2 : Int) - den.log2 - 53
  let e :=
    if num * Nat.pow 2 (-guess).toNat < Nat.pow 2 53 * den * Nat.pow 2 guess.toNat then guess
    else guess + 1
  max e (-1074)

/-- The magnitude of the double nearest to `num / den`, unless that is beyond the largest one. -/
def nearest? (num den : Nat) : Option Nat :=
  if num = 0 then some 0
  else
    let e := exponentOf num den
    let digits := roundDiv (num * Nat.pow 2 (-e).toNat) (den * Nat.pow 2 e.toNat)
    let magnitude := (e + 1074).toNat * Nat.pow 2 52 + digits
    if magnitude < 0x7FF * Nat.pow 2 52 then some magnitude else none

/-- The magnitude nearest to a product of two magnitudes. -/
def mul? (a b : Nat) : Option Nat :=
  let (m, e) := scaled a
  let (n, f) := scaled b
  nearest? (m * n * Nat.pow 2 (e + f).toNat) (Nat.pow 2 (-(e + f)).toNat)

/-- The magnitude nearest to a quotient of two magnitudes. -/
def div? (a b : Nat) : Option Nat :=
  let (m, e) := scaled a
  let (n, f) := scaled b
  nearest? (m * Nat.pow 2 (e - f).toNat) (n * Nat.pow 2 (f - e).toNat)

end Binary64

/-! ## Decimal numbers

A decimal is read in two roundings, first of its digits and then of their product or quotient with
a power of ten that is itself a double. -/

/-- A power of ten as a double's magnitude. -/
def powerOfTen? (n : Nat) : Option Nat :=
  Binary64.nearest? (Nat.pow 10 n) 1

/-- The largest power of ten that is a double. -/
def maxPower : Nat := 308

/-- The magnitude of `digits * 10 ^ (-n)`.  Dividing by the largest power leaves nothing after
three times, whatever the digits, so that many steps are enough. -/
def shrink (digits : Nat) (n : Nat) : Nat → Option Nat
  | 0 => some 0
  | steps + 1 =>
    if n ≤ maxPower then do Binary64.div? digits (← powerOfTen? n)
    else if digits = 0 then some 0
    else do shrink (← Binary64.div? digits (← powerOfTen? maxPower)) (n - maxPower) steps

/-- The double read for `digits * 10 ^ exponent`, unless it is beyond the largest one. -/
def readScientific? (negative : Bool) (digits : Nat) (exponent : Int) : Option Binary64 := do
  let rounded ← Binary64.nearest? digits 1
  let magnitude ←
    if exponent < 0 then shrink rounded exponent.natAbs 4
    else if exponent.natAbs ≤ maxPower then
      do Binary64.mul? rounded (← powerOfTen? exponent.natAbs)
    else if rounded = 0 then some 0 else none
  return .ofMagnitude negative magnitude

end StepUp.Decimal
