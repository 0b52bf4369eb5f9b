/-!
# Instants and the calendar

An instant counts the seconds since the start of 1970 in universal time, on the Gregorian calendar
extended in both directions.  A leap second is the second before it with a full second more in its
fraction.
-/

namespace StepUp.Time

/-- An instant in universal time. -/
structure Timestamp where
  seconds : Int
  nanos : Nat
deriving DecidableEq, Repr, Inhabited

/-- The start of 1970. -/
def Timestamp.epoch : Timestamp := ⟨0, 0⟩

/-- A day of the calendar. -/
structure Date where
  year : Int
  month : Nat
  day : Nat
deriving DecidableEq, Repr

/-- Whether the year has a twenty-ninth of February. -/
def isLeapYear (year : Int) : Bool :=
  year % 4 == 0 && (year % 100 != 0 || year % 400 == 0)

/-- The number of days of a month. -/
def daysInMonth (year : Int) (month : Nat) : Nat :=
  if month = 2 then (if isLeapYear year then 29 else 28)
  else if month = 4 ∨ month = 6 ∨ month = 9 ∨ month = 11 then 30
  else 31

/-- The years for which there are dates. -/
def yearInRange (year : Int) : Bool :=
  -262143 ≤ year && year ≤ 262142

/-- The date, if there is one with this year, month and day. -/
def Date.ofParts? (year : Int) (month day : Nat) : Option Date :=
  if yearInRange year && 1 ≤ month && month ≤ 12 && 1 ≤ day && day ≤ daysInMonth year month then
    some ⟨year, month, day⟩
  else none

/-- The days from the start of 1970 to a date.  Years are counted from March, so that the leap day
is the last of its year, in cycles of four hundred years. -/
def Date.dayNumber (d : Date) : Int :=
  let year := if d.month ≤ 2 then d.year - 1 else d.year
  let cycle := Int.fdiv year 400
  let yearOfCycle := year - cycle * 400
  let month := (d.month + 9) % 12
  let dayOfYear : Int := (153 * month + 2) / 5 + d.day - 1
  let dayOfCycle := yearOfCycle * 365 + yearOfCycle / 4 - yearOfCycle / 100 + dayOfYear
  cycle * 146097 + dayOfCycle - 719468

/-- The date at a number of days from the start of 1970. -/
def Date.ofDayNumber (n : Int) : Date :=
  let z := n + 719468
  let cycle := Int.fdiv z 146097
  let dayOfCycle := z - cycle * 146097
  let leapDays := dayOfCycle / 1460 - dayOfCycle / 36524 + dayOfCycle / 146096
  let yearOfCycle := (dayOfCycle - leapDays) / 365
  let dayOfYear := dayOfCycle - (365 * yearOfCycle + yearOfCycle / 4 - yearOfCycle / 100)
  let m := ((5 * dayOfYear + 2) / 153).toNat
  let day := dayOfYear.toNat - (153 * m + 2) / 5 + 1
  let month := if m < 10 then m + 3 else m - 9
  { year := yearOfCycle + cycle * 400 + (if month ≤ 2 then 1 else 0), month, day }

/-- The instant of a wall clock that runs `offset` seconds ahead of universal time. -/
def Timestamp.ofClock (date : Date) (hour minute second nanos : Nat) (offset : Int) : Timestamp :=
  { seconds := date.dayNumber * 86400 + (hour * 3600 + minute * 60 + second : Nat) - offset, nanos }

end StepUp.Time
