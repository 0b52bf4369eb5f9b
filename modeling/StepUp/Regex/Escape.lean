import StepUp.Regex.Fault
import StepUp.Regex.Syntax
import StepUp.Text.Blank

/-!
# Escapes in patterns

The parts of a pattern that a backslash begins, and the numbers of counted repetitions.  In the
verbose mode white space and comments may stand nearly everywhere, also inside of escapes, so every
reader here is told whether that mode is on.
-/

namespace StepUp.Regex

open Text (isBlank)

/-- The text after white space and comments, for the verbose mode. -/
def skipVerbose (inComment : Bool) : List Char → List Char
  | [] => []
  | c :: rest =>
    if inComment then skipVerbose (c != '\n') rest
    else if isBlank c then skipVerbose false rest
    else if c == '#' then skipVerbose true rest
    else c :: rest

/-- The text from where the next part begins. -/
def skip (verbose : Bool) (cs : List Char) : List Char :=
  if verbose then skipVerbose false cs else cs

/-- The text from where the next part begins, which has to be there. -/
def skipTo (verbose : Bool) (fault : Fault) (cs : List Char) : Except Fault (List Char) :=
  match skip verbose cs with
  | [] => .error fault
  | rest => .ok rest

/-! ## Numbers -/

/-- The value of a hexadecimal digit. -/
def hexDigit? (c : Char) : Option Nat :=
  if '0' ≤ c ∧ c ≤ '9' then some (c.toNat - '0'.toNat)
  else if 'a' ≤ c ∧ c ≤ 'f' then some (c.toNat - 'a'.toNat + 10)
  else if 'A' ≤ c ∧ c ≤ 'F' then some (c.toNat - 'A'.toNat + 10)
  else none

/-- The character with a number. -/
def charOf? (n : Nat) : Option Char :=
  if n.isValidChar then some (Char.ofNat n) else none

/-- A given number of hexadecimal digits, joined to those read so far. -/
def readFixedHex (verbose : Bool) (number : Nat) : (digits : Nat) → List Char →
    Except Fault (Nat × List Char)
  | 0, cs => .ok (number, cs)
  | digits + 1, cs =>
    match cs with
    | [] => .error .badHex
    | c :: rest =>
      match hexDigit? c with
      | none => .error .badHex
      | some d => readFixedHex verbose (number * 16 + d) digits (skip verbose rest)

/-- Hexadecimal digits up to a closing brace; `some` digit has to be there. -/
def readBracedHex (verbose : Bool) (number : Option Nat) : (fuel : Nat) → List Char →
    Except Fault (Nat × List Char)
  | 0, _ | _, [] => .error .badHex
  | fuel + 1, c :: rest =>
    if c = '}' then
      match number with
      | some n => .ok (n, skip verbose rest)
      | none => .error .badHex
    else
      match hexDigit? c with
      | none => .error .badHex
      | some d => readBracedHex verbose (some (number.getD 0 * 16 + d)) fuel (skip verbose rest)

/-- A character written in hexadecimal, after its letter: `x` takes two digits, `u` four and `U`
eight, unless there are braces. -/
def readHex (verbose : Bool) (letter : Char) (cs : List Char) :
    Except Fault (Literal × List Char) := do
  let cs ← skipTo verbose .badHex cs
  let (n, isByte, rest) ←
    match cs with
    | '{' :: cs =>
      let (n, rest) ← readBracedHex verbose none (cs.length + 1) (skip verbose cs)
      pure (n, false, rest)
    | _ =>
      let digits := if letter = 'x' then 2 else if letter = 'u' then 4 else 8
      let (n, rest) ← readFixedHex verbose 0 digits cs
      pure (n, letter = 'x', rest)
  match charOf? n with
  | some c => return ({ char := c, isByte }, rest)
  | none => throw .badHex

/-- Decimal digits with the number they spell so far, if there are any. -/
def readDigits (verbose : Bool) (number : Option Nat) : (fuel : Nat) → List Char →
    Option Nat × List Char
  | 0, cs => (number, cs)
  | fuel + 1, cs =>
    match cs with
    | c :: rest =>
      if c.isDigit then
        readDigits verbose (some (number.getD 0 * 10 + (c.toNat - '0'.toNat))) fuel
          (skip verbose rest)
      else (number, cs)
    | [] => (number, cs)

/-- A number below `2 ^ 32` if there is one, and white space around it. -/
def readDecimal (verbose : Bool) (cs : List Char) : Except Fault (Option Nat × List Char) :=
  let (number, rest) := readDigits verbose none cs.length (cs.dropWhile isBlank)
  match number with
  | some n =>
    if n < Nat.pow 2 32 then .ok (number, skip verbose (rest.dropWhile isBlank))
    else .error .badCount
  | none => .ok (none, skip verbose (rest.dropWhile isBlank))

/-! ## Escapes -/

/-- What an escape stands for. -/
inductive Escape where
  | literal (l : Literal)
  | assertion (a : Assertion)
  | set (s : SetTree)

/-- The characters with a meaning of their own, which a backslash takes from them. -/
def isMeta (c : Char) : Bool :=
  c ∈ ['\\', '.', '+', '*', '?', '(', ')', '|', '[', ']', '{', '}', '^', '$', '#', '&', '-', '~']

/-- The characters that may be escaped without need: ASCII but digits, letters and angle
brackets. -/
def isEscapable (c : Char) : Bool :=
  c.toNat < 0x80 && !c.isAlphanum && c != '<' && c != '>'

/-- The side of a boundary of words with a name. -/
def wordSide? : String → Option WordSide
  | "start" => some .start
  | "end" => some .stop
  | "start-half" => some .startHalf
  | "end-half" => some .stopHalf
  | _ => none

/-- The letters up to a closing brace. -/
def readWordName (verbose : Bool) (done : List Char) : (fuel : Nat) → List Char →
    Except Fault (String × List Char)
  | 0, _ | _, [] => .error .badWordBoundary
  | fuel + 1, c :: rest =>
    if c.isAlpha || c == '-' then readWordName verbose (c :: done) fuel (skip verbose rest)
    else if c = '}' then .ok (String.ofList done.reverse, rest)
    else .error .badWordBoundary

/-- The boundary of words after `\b`: a name in braces may ask for one side of it.  Braces that do
not begin with a letter are a counted repetition. -/
def readWordBoundary (verbose : Bool) (cs : List Char) : Except Fault (WordSide × List Char) :=
  match cs with
  | '{' :: inner => do
    let inner ← skipTo verbose .badWordBoundary inner
    match inner with
    | c :: _ =>
      if c.isAlpha || c == '-' then
        let (name, rest) ← readWordName verbose [] (inner.length + 1) inner
        match wordSide? name with
        | some side => return (side, rest)
        | none => throw .badWordBoundary
      else return (.boundary, cs)
    | [] => throw .badWordBoundary
  | _ => .ok (.boundary, cs)

/-- The characters up to a closing brace. -/
def readPropertyName (verbose : Bool) (done : List Char) : (fuel : Nat) → List Char →
    Except Fault (String × List Char)
  | 0, _ => .error .badEscape
  | fuel + 1, cs =>
    match skip verbose cs with
    | [] => .error .badEscape
    | '}' :: rest => .ok (String.ofList done.reverse, rest)
    | c :: rest => readPropertyName verbose (c :: done) fuel rest

/-- The parts of a text around the first place where a separator stands. -/
def splitAt? (separator : List Char) : List Char → Option (String × String)
  | [] => none
  | c :: rest =>
    if separator.isPrefixOf (c :: rest) then
      some ("", String.ofList ((c :: rest).drop separator.length))
    else (splitAt? separator rest).map fun (a, b) => (String.ofList (c :: a.toList), b)

/-- The class of a property query: the name of a property, or a property and its value with `!=`,
`:` or `=` between them. -/
def queryOf (name : String) (negated : Bool) : SetTree :=
  match splitAt? ['!', '='] name.toList, splitAt? [':'] name.toList, splitAt? ['='] name.toList with
  | some (p, v), _, _ => .unicode (.value p v) !negated
  | none, some (p, v), _ => .unicode (.value p v) negated
  | none, none, some (p, v) => .unicode (.value p v) negated
  | none, none, none => .unicode (.name name) negated

/-- The class of a property, after its letter. -/
def readProperty (verbose negated : Bool) (cs : List Char) :
    Except Fault (SetTree × List Char) := do
  match ← skipTo verbose .badEscape cs with
  | '{' :: rest =>
    let (name, rest) ← readPropertyName verbose [] (rest.length + 1) rest
    return (queryOf name negated, rest)
  | c :: rest =>
    if c = '\\' then throw .badEscape
    else return (.unicode (.name c.toString) negated, skip verbose rest)
  | [] => throw .badEscape

/-- What stands after a backslash. -/
def readEscape (verbose : Bool) (cs : List Char) : Except Fault (Escape × List Char) :=
  let literal (c : Char) (rest : List Char) := .ok (.literal { char := c }, rest)
  let set (kind : EscapeClass) (negated : Bool) (rest : List Char) :=
    .ok (.set (.escape kind negated), rest)
  let assertion (a : Assertion) (rest : List Char) := .ok (.assertion a, rest)
  match cs with
  | [] => .error .badEscape
  | c :: rest =>
    match c with
    | 'x' | 'u' | 'U' => do
      let (l, rest) ← readHex verbose c rest
      return (.literal l, rest)
    | 'p' | 'P' => do
      let (s, rest) ← readProperty verbose (c == 'P') rest
      return (.set s, rest)
    | 'd' => set .digit false rest
    | 'D' => set .digit true rest
    | 's' => set .space false rest
    | 'S' => set .space true rest
    | 'w' => set .word false rest
    | 'W' => set .word true rest
    | 'a' => literal '\x07' rest
    | 'f' => literal '\x0c' rest
    | 't' => literal '\t' rest
    | 'n' => literal '\n' rest
    | 'r' => literal '\r' rest
    | 'v' => literal '\x0b' rest
    | 'A' => assertion .textStart rest
    | 'z' => assertion .textEnd rest
    | 'B' => assertion (.word .noBoundary) rest
    | '<' => assertion (.word .start) rest
    | '>' => assertion (.word .stop) rest
    | 'b' => do
      let (side, rest) ← readWordBoundary verbose rest
      return (.assertion (.word side), rest)
    | _ => if isMeta c || isEscapable c then literal c rest else .error .badEscape

end StepUp.Regex
