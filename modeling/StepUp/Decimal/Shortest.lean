import StepUp.Decimal.Binary64

/-!
# The shortest decimal of a double

Among the decimals that read back as a given double, the written one has the fewest digits, and
among those of that length it is the nearest to the exact value.  The search goes through the
lengths in turn: on the grid of decimals of one length, only the two neighbours of the exact value
can be the nearest, so testing these two is enough.
-/

namespace StepUp.Decimal

/-- The numbers that round to `m * 2 ^ e`, as twice-scaled bounds over one denominator: everything
strictly between `low / den` and `high / den`, the ends included if `closed` holds. -/
structure Cell where
  value : Nat
  low : Nat
  high : Nat
  den : Nat
  closed : Bool

namespace Cell

/-- The cell of a magnitude.  Below a power of two the neighbour is half as far away. -/
def ofMagnitude (magnitude : Nat) : Cell :=
  let (m, e) := Binary64.scaled magnitude
  let up := 4 * Nat.pow 2 e.toNat
  let narrow := m = Nat.pow 2 52 ∧ -1074 < e
  { value := m * up
    low := m * up - (if narrow then up / 4 else up / 2)
    high := m * up + up / 2
    den := 4 * Nat.pow 2 (-e).toNat
    closed := m % 2 = 0 }

/-- Whether the decimal `digits * 10 ^ exponent` rounds to the cell's double. -/
def holds (c : Cell) (digits : Nat) (exponent : Int) : Bool :=
  let lhs := digits * Nat.pow 10 exponent.toNat * c.den
  let scale := Nat.pow 10 (-exponent).toNat
  if c.closed then c.low * scale ≤ lhs && lhs ≤ c.high * scale
  else c.low * scale < lhs && lhs < c.high * scale

/-- The decimal with the given last place that is nearest to the value, of those in the cell. -/
def onGrid? (c : Cell) (exponent : Int) : Option Nat :=
  let num := c.value * Nat.pow 10 (-exponent).toNat
  let den := c.den * Nat.pow 10 exponent.toNat
  let below := num / den
  match c.holds below exponent, c.holds (below + 1) exponent with
  | true, true => some (Binary64.roundDiv num den)
  | true, false => some below
  | false, true => some (below + 1)
  | false, false => none

/-- The first hit when the last place moves down from `exponent`, one at a time. -/
def search (c : Cell) (exponent : Int) : Nat → Nat × Int
  | 0 => (0, 0)
  | tries + 1 =>
    match c.onGrid? exponent with
    | some 0 | none => c.search (exponent - 1) tries
    | some digits => (digits, exponent)

end Cell

/-- How many decimal digits a number has, counting at most `limit`. -/
def digitCount (n : Nat) : Nat :=
  (Nat.toDigits 10 n).length

/-- The digits and the exponent of ten of the shortest decimal of a magnitude other than zero.  A
double has a decimal of at most seventeen digits, and the first place tried is above its first
digit. -/
def shortest (magnitude : Nat) : Nat × Int :=
  let c := Cell.ofMagnitude magnitude
  let top : Int := (digitCount c.value : Int) - digitCount c.den + 1
  let (digits, exponent) := c.search top 22
  strip digits exponent 20
where
  /-- The decimal without the zeros at its end. -/
  strip (digits : Nat) (exponent : Int) : Nat → Nat × Int
    | 0 => (digits, exponent)
    | n + 1 => if digits % 10 = 0 then strip (digits / 10) (exponent + 1) n else (digits, exponent)

/-! ## The written form -/

/-- The decimal point stays within sixteen places before it and five zeros after it; beyond that
the number is written with an exponent. -/
def layout (digits : String) (exponent : Int) : String :=
  let length : Int := digits.length
  let point := length + exponent
  if 0 ≤ exponent ∧ point ≤ 16 then
    digits ++ zeros exponent.toNat ++ ".0"
  else if 0 < point ∧ point ≤ 16 then
    String.ofList (digits.toList.take point.toNat) ++ "."
      ++ String.ofList (digits.toList.drop point.toNat)
  else if -5 < point ∧ point ≤ 0 then
    "0." ++ zeros (-point).toNat ++ digits
  else
    let tail := String.ofList (digits.toList.drop 1)
    String.ofList (digits.toList.take 1) ++ (if tail.isEmpty then "" else "." ++ tail)
      ++ "e" ++ toString (point - 1)
where
  /-- A run of zeros. -/
  zeros (n : Nat) : String := String.ofList (List.replicate n '0')

/-- The text of a double; a whole number ends in `.0`. -/
def Binary64.text (d : Binary64) : String :=
  let body :=
    if d.isZero then "0.0"
    else
      let (digits, exponent) := shortest d.magnitude
      layout (toString digits) exponent
  if d.negative then "-" ++ body else body

end StepUp.Decimal
