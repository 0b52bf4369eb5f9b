import StepUp.Text.Blank
import StepUp.Time.Timestamp

/-!
# RFC 3339

Instants are written in universal time with `Z`, and with as many decimals of a second as they
need, in steps of three.  Reading is more generous: white space may stand around the numbers, a
space may stand for the `T`, a year may have a sign and any number of digits, and every offset
below a day is understood.
-/

namespace StepUp.Time

open Text (isBlank)

/-! ## Writing -/

/-- A number in decimal, with zeros before it up to a width. -/
def padded (width n : Nat) : String :=
  let digits := toString n
  String.ofList (List.replicate (width - digits.length) '0') ++ digits

/-- A year; outside the four-digit years it has a sign. -/
def yearText (year : Int) : String :=
  if 0 ≤ year ∧ year ≤ 9999 then padded 4 year.toNat
  else (if year < 0 then "-" else "+") ++ padded 4 year.natAbs

/-- The decimals of a second, the fewest of none, three, six and nine that are exact. -/
def fractionText (nanos : Nat) : String :=
  if nanos = 0 then ""
  else if nanos % 1000000 = 0 then "." ++ padded 3 (nanos / 1000000)
  else if nanos % 1000 = 0 then "." ++ padded 6 (nanos / 1000)
  else "." ++ padded 9 nanos

/-- The text of an instant. -/
def Timestamp.text (t : Timestamp) : String :=
  let date := Date.ofDayNumber (Int.fdiv t.seconds 86400)
  let clock := (Int.fmod t.seconds 86400).toNat
  let leap := t.nanos / 1000000000
  yearText date.year ++ "-" ++ padded 2 date.month ++ "-" ++ padded 2 date.day ++ "T"
    ++ padded 2 (clock / 3600) ++ ":" ++ padded 2 (clock / 60 % 60) ++ ":"
    ++ padded 2 (clock % 60 + leap) ++ fractionText (t.nanos % 1000000000) ++ "Z"

/-! ## Reading -/

/-- The text after the white space at its start. -/
def skipBlank (cs : List Char) : List Char :=
  cs.dropWhile isBlank

/-- The number that digits spell. -/
def number (digits : List Char) : Nat :=
  digits.foldl (fun n c => n * 10 + (c.toNat - '0'.toNat)) 0

/-- A number of at least one and at most `width` digits, after white space. -/
def readNumber? (width : Nat) (cs : List Char) : Option (Nat × List Char) :=
  let cs := skipBlank cs
  let digits := (cs.take width).takeWhile Char.isDigit
  if digits.isEmpty then none else some (number digits, cs.drop digits.length)

/-- A year: four digits at most, or a sign and digits. -/
def readYear? (cs : List Char) : Option (Int × List Char) :=
  let signed (sign : Int) (cs : List Char) :=
    let (digits, rest) := cs.span Char.isDigit
    if digits.isEmpty then none else some (sign * number digits, rest)
  match skipBlank cs with
  | '-' :: cs => signed (-1) cs
  | '+' :: cs => signed 1 cs
  | cs => (readNumber? 4 cs).map fun (n, rest) => (n, rest)

/-- The text after a character that has to come next, with white space before it. -/
def expect? (c : Char) (cs : List Char) : Option (List Char) :=
  match skipBlank cs with
  | d :: rest => if c = d then some rest else none
  | [] => none

/-- The nanoseconds of a fraction, if there is one; digits beyond the ninth are dropped. -/
def readFraction? : List Char → Option (Nat × List Char)
  | '.' :: cs =>
    let (digits, rest) := cs.span Char.isDigit
    if digits.isEmpty then none
    else
      let kept := digits.take 9
      some (number kept * Nat.pow 10 (9 - kept.length), rest)
  | cs => some (0, cs)

/-- The seconds that a zone is ahead of universal time: `Z`, `UTC`, or a sign with two digits of
hours and two of minutes, colons and white space between them. -/
def readOffset? (cs : List Char) : Option (Int × List Char) :=
  let digits (sign : Int) (cs : List Char) : Option (Int × List Char) :=
    match cs with
    | h :: k :: cs =>
      match cs.dropWhile fun c => c == ':' || isBlank c with
      | m :: n :: rest =>
        if h.isDigit && k.isDigit && '0' ≤ m && m ≤ '5' && n.isDigit then
          some (sign * (number [h, k] * 3600 + number [m, n] * 60 : Nat), rest)
        else none
      | _ => none
    | _ => none
  let letters := (cs.take 3).map Char.toLower
  if letters = ['u', 't', 'c'] then some (0, cs.drop 3)
  else
    match cs with
    | 'Z' :: rest | 'z' :: rest => some (0, rest)
    | '+' :: rest => digits 1 rest
    | '-' :: rest | '−' :: rest => digits (-1) rest
    | _ => none

/-- The instant that a text writes.  The sixtieth second of a minute is a leap second, and both the
wall clock's date and the one in universal time have to exist. -/
def Timestamp.parse? (text : String) : Option Timestamp := do
  let (year, cs) ← readYear? text.toList
  let (month, cs) ← readNumber? 2 (← expect? '-' cs)
  let (day, cs) ← readNumber? 2 (← expect? '-' cs)
  let date ← Date.ofParts? year month day
  let cs ←
    match cs with
    | 'T' :: cs | 't' :: cs | ' ' :: cs => some cs
    | _ => none
  let (hour, cs) ← readNumber? 2 cs
  let (minute, cs) ← readNumber? 2 (← expect? ':' cs)
  let (second, cs) ← readNumber? 2 (← expect? ':' cs)
  let (nanos, cs) ← readFraction? cs
  let (offset, cs) ← readOffset? (skipBlank cs)
  guard (hour ≤ 23 ∧ minute ≤ 59 ∧ second ≤ 60 ∧ offset.natAbs < 86400 ∧ (skipBlank cs).isEmpty)
  let leap := if second = 60 then 1000000000 else 0
  let t := Timestamp.ofClock date hour minute (min second 59) (nanos + leap) offset
  guard (yearInRange (Date.ofDayNumber (Int.fdiv t.seconds 86400)).year)
  return t

end StepUp.Time
