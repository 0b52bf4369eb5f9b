import StepUp.Json.Basic

/-!
# JSON text

Reading a value from its text.  Whatever the grammar refuses is refused here too: control
characters in strings, unpaired surrogates, leading zeros and commas at the end.  Two limits are
this reader's own: arrays and objects nest at most `maxDepth` deep, and a number has to lie within
the range of doubles.  The members of an object are kept in the order of the text, repeated keys
included, since the reader of a structure has to see both.
-/

namespace StepUp.Json

/-- How deep arrays and objects may nest. -/
def maxDepth : Nat := 127

/-- The text after the white space at its start. -/
def skipSpace (cs : List Char) : List Char :=
  cs.dropWhile fun c => c == ' ' || c == '\n' || c == '\t' || c == '\r'

/-! ## Numbers -/

/-- The value of a decimal digit. -/
def digitValue (c : Char) : Nat :=
  c.toNat - '0'.toNat

/-- Digits joined to a number as long as it fits sixty-four bits, and the digits left over. -/
def absorb (number : Nat) : List Char → Nat × List Char
  | [] => (number, [])
  | c :: rest =>
    let next := number * 10 + digitValue c
    if next < Nat.pow 2 64 then absorb next rest else (number, c :: rest)

/-- The whole number that a run of digits spells. -/
def spelled (digits : List Char) : Nat :=
  digits.foldl (fun n c => n * 10 + digitValue c) 0

/-- The exponent after an `e`, if a digit follows, and the rest. -/
def readExponent? (cs : List Char) : Option (Int × List Char) :=
  let (negative, cs) :=
    match cs with
    | '+' :: r => (false, r)
    | '-' :: r => (true, r)
    | _ => (false, cs)
  let (digits, rest) := cs.span Char.isDigit
  if digits.isEmpty then none
  else
    let n : Int := spelled digits
    some (if negative then -n else n, rest)

/-- The number with the given sign and leading digits: an integer if neither fraction nor exponent
follows and it lies between `-2 ^ 63` and `2 ^ 64 - 1`, else a double.  Negative zero is a double.
Digits that no longer fit sixty-four bits only count for the size of the double. -/
def readNumber? (negative : Bool) (digits cs : List Char) : Option (Json × List Char) := do
  let (whole, surplus) := absorb 0 digits
  let (isFraction, fraction, cs) ←
    match cs with
    | '.' :: r =>
      let (f, r) := r.span Char.isDigit
      if f.isEmpty then none else some (true, f, r)
    | _ => some (false, [], cs)
  let (isPower, exponent, cs) ←
    match cs with
    | 'e' :: r | 'E' :: r => (readExponent? r).map fun (e, r) => (true, e, r)
    | _ => some (false, 0, cs)
  let (significand, unread) := absorb whole fraction
  let scale : Int := surplus.length - (fraction.length - unread.length : Nat) + exponent
  let double := do
    let d ← Decimal.readScientific? negative significand scale
    return (Json.float d, cs)
  if isFraction || isPower || !surplus.isEmpty then double
  else if negative then
    if 0 < whole ∧ whole ≤ Nat.pow 2 63 then some (.int (-whole), cs) else double
  else some (.int whole, cs)

/-! ## Strings -/

/-- The value of a hexadecimal digit. -/
def hexValue? (c : Char) : Option Nat :=
  if '0' ≤ c ∧ c ≤ '9' then some (c.toNat - '0'.toNat)
  else if 'a' ≤ c ∧ c ≤ 'f' then some (c.toNat - 'a'.toNat + 10)
  else if 'A' ≤ c ∧ c ≤ 'F' then some (c.toNat - 'A'.toNat + 10)
  else none

/-- The number in the four hexadecimal digits of an escape, and the rest. -/
def readUnit? : List Char → Option (Nat × List Char)
  | a :: b :: c :: d :: rest => do
    let digits ← [a, b, c, d].mapM hexValue?
    return (digits.foldl (fun n digit => n * 16 + digit) 0, rest)
  | _ => none

/-- The character of the escape whose digits come next; a character beyond the first plane is
written as two escapes. -/
def readCodePoint? (cs : List Char) : Option (Char × List Char) := do
  let (unit, rest) ← readUnit? cs
  if 0xDC00 ≤ unit ∧ unit ≤ 0xDFFF then none
  else if 0xD800 ≤ unit ∧ unit ≤ 0xDBFF then
    match rest with
    | '\\' :: 'u' :: rest =>
      let (low, rest) ← readUnit? rest
      if 0xDC00 ≤ low ∧ low ≤ 0xDFFF then
        return (Char.ofNat (0x10000 + (unit - 0xD800) * 0x400 + (low - 0xDC00)), rest)
      else none
    | _ => none
  else return (Char.ofNat unit, rest)

/-- The character of an escape of one letter. -/
def simpleEscape? : Char → Option Char
  | '"' => some '"'
  | '\\' => some '\\'
  | '/' => some '/'
  | 'b' => some '\x08'
  | 'f' => some '\x0c'
  | 'n' => some '\n'
  | 'r' => some '\r'
  | 't' => some '\t'
  | _ => none

/-- The string up to the closing quote, its characters so far in reverse, and the rest. -/
def readString? (done : List Char) : (fuel : Nat) → List Char → Option (String × List Char)
  | 0, _ | _, [] => none
  | fuel + 1, c :: cs =>
    if c = '"' then some (String.ofList done.reverse, cs)
    else if c = '\\' then
      match cs with
      | 'u' :: rest => do
        let (c, rest) ← readCodePoint? rest
        readString? (c :: done) fuel rest
      | e :: rest => do readString? ((← simpleEscape? e) :: done) fuel rest
      | [] => none
    else if c.toNat < 0x20 then none
    else readString? (c :: done) fuel cs

/-! ## Values -/

/-- A number whose sign has been read.  A leading zero stands alone. -/
def readDigits? (negative : Bool) (cs : List Char) : Option (Json × List Char) :=
  match cs with
  | '0' :: rest =>
    match rest with
    | c :: _ => if c.isDigit then none else readNumber? negative ['0'] rest
    | [] => readNumber? negative ['0'] rest
  | _ =>
    let (digits, rest) := cs.span Char.isDigit
    if digits.isEmpty then none else readNumber? negative digits rest

/-- The value of a word, if the text goes on with the rest of the word. -/
def literal? (word : String) (v : Json) (cs : List Char) : Option (Json × List Char) :=
  if word.toList.isPrefixOf cs then some (v, cs.drop word.length) else none

mutual

/-- A value at the start of the text, and the rest. -/
def readValue? : (fuel depth : Nat) → List Char → Option (Json × List Char)
  | 0, _, _ | _, _, [] => none
  | fuel + 1, depth, c :: cs =>
    match c with
    | '"' => (readString? [] (cs.length + 1) cs).map fun (s, rest) => (.str s, rest)
    | '[' =>
      match depth with
      | 0 => none
      | depth + 1 =>
        match skipSpace cs with
        | ']' :: rest => some (.arr [], rest)
        | cs => readItems? fuel depth [] cs
    | '{' =>
      match depth with
      | 0 => none
      | depth + 1 =>
        match skipSpace cs with
        | '}' :: rest => some (.obj [], rest)
        | cs => readMembers? fuel depth [] cs
    | '-' => readDigits? true cs
    | 'n' => literal? "ull" .null cs
    | 't' => literal? "rue" (.bool true) cs
    | 'f' => literal? "alse" (.bool false) cs
    | _ => readDigits? false (c :: cs)

/-- The items of an array from the one at the start of the text, and the rest after the bracket. -/
def readItems? : (fuel depth : Nat) → List Json → List Char → Option (Json × List Char)
  | 0, _, _, _ => none
  | fuel + 1, depth, done, cs => do
    let (v, cs) ← readValue? fuel depth (skipSpace cs)
    match skipSpace cs with
    | ',' :: cs => readItems? fuel depth (v :: done) cs
    | ']' :: cs => some (.arr (v :: done).reverse, cs)
    | _ => none

/-- The members of an object from the one at the start of the text, and the rest after the brace. -/
def readMembers? : (fuel depth : Nat) → List (String × Json) → List Char →
    Option (Json × List Char)
  | 0, _, _, _ => none
  | fuel + 1, depth, done, cs => do
    let (key, cs) ←
      match skipSpace cs with
      | '"' :: cs => readString? [] (cs.length + 1) cs
      | _ => none
    match skipSpace cs with
    | ':' :: cs =>
      let (v, cs) ← readValue? fuel depth (skipSpace cs)
      match skipSpace cs with
      | ',' :: cs => readMembers? fuel depth ((key, v) :: done) cs
      | '}' :: cs => some (.obj ((key, v) :: done).reverse, cs)
      | _ => none
    | _ => none

end

/-- The value that a text holds, with nothing but white space around it. -/
def parse? (text : String) : Option Json := do
  let cs := skipSpace text.toList
  let (v, rest) ← readValue? (2 * cs.length + 4) maxDepth cs
  if (skipSpace rest).isEmpty then return v else none

end StepUp.Json
