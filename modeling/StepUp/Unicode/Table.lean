/-!
# Tables of characters

Tables are written as text, in hexadecimal: the ranges of a set as `41-5A 5F`, the runs of a
partition of all characters as `0:Cc 20:Zs`, where a run ends before the next one.  Look-up is by
bisection.
-/

namespace StepUp.Unicode

/-! ## Reading the written tables -/

/-- The words of a text that are separated by spaces and ends of lines. -/
def words (s : String) : List String :=
  (s.splitToList fun c => c == ' ' || c == '\n').filter fun w => !w.isEmpty

/-- The value of a hexadecimal digit in upper case. -/
def hexDigitValue (c : Char) : Nat :=
  if c.isDigit then c.toNat - '0'.toNat else c.toNat - 'A'.toNat + 10

/-- A hexadecimal number. -/
def parseHex (s : String) : Nat :=
  s.toList.foldl (fun n c => n * 16 + hexDigitValue c) 0

/-- A hexadecimal number that may have a minus before it. -/
def parseSigned (s : String) : Int :=
  match s.toList with
  | '-' :: digits => -parseHex (String.ofList digits)
  | _ => parseHex s

/-- A range such as `41-5A`, or a single number. -/
def parseRange (s : String) : Nat × Nat :=
  match s.splitOn "-" with
  | [a, b] => (parseHex a, parseHex b)
  | _ => (parseHex s, parseHex s)

/-- Pairs such as `name:value`. -/
def parsePairs (s : String) : List (String × String) :=
  (words s).map fun w =>
    match w.splitOn ":" with
    | [a, b] => (a, b)
    | _ => (w, "")

/-! ## Look-up -/

/-- The last index below `high` whose key is at most `n`, from `low` on, where there is one. -/
def bisect (key : Nat → Nat) (n : Nat) : (fuel low high : Nat) → Nat
  | 0, low, _ => low
  | fuel + 1, low, high =>
    if high ≤ low + 1 then low
    else
      let mid := (low + high) / 2
      if key mid ≤ n then bisect key n fuel mid high else bisect key n fuel low mid

/-- A set of characters, by its ranges in ascending order. -/
structure RangeTable where
  ranges : Array (Nat × Nat)

namespace RangeTable

/-- Reads the written form. -/
def parse (s : String) : RangeTable :=
  ⟨((words s).map parseRange).toArray⟩

/-- Whether a character is in the set. -/
def contains (t : RangeTable) (n : Nat) : Bool :=
  let i := bisect (fun i => (t.ranges.getD i (0, 0)).1) n 32 0 t.ranges.size
  match t.ranges[i]? with
  | some (a, b) => a ≤ n && n ≤ b
  | none => false

end RangeTable

/-- A partition of all characters into runs with a label each. -/
structure RunTable where
  runs : Array (Nat × String)

namespace RunTable

/-- Reads the written form. -/
def parse (s : String) : RunTable :=
  ⟨((parsePairs s).map fun (a, b) => (parseHex a, b)).toArray⟩

/-- The label of the run that a character is in. -/
def label (t : RunTable) (n : Nat) : String :=
  (t.runs.getD (bisect (fun i => (t.runs.getD i (0, "")).1) n 32 0 t.runs.size) (0, "")).2

end RunTable

end StepUp.Unicode
