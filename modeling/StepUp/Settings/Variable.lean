import StepUp.Decimal.Literal
import StepUp.Json.Reader
import StepUp.Settings.Layer
import StepUp.Text.Blank

/-!
# Settings in environment variables

A variable whose name begins with `STEPUP__` gives one setting: the names of the objects on the way
to it follow, with two underscores or a point between them.  Its value is written in a short form,
in which lists and maps stand in brackets and texts need no quotes; what is not in that form is the
text itself.  Together the variables make one layer of settings.
-/

namespace StepUp.Settings

open Decimal (Binary64 Literal)

/-! ## The short form of values -/

/-- White space around values. -/
def isFiller (c : Char) : Bool :=
  c matches ' ' | '\t' | '\n' | '\r' | '\x0c'

/-- The characters that end a value without quotes. -/
def isSeparator (c : Char) : Bool :=
  c matches ',' | '{' | '}' | '[' | ']'

/-- The characters of names without quotes. -/
def isNameChar (c : Char) : Bool :=
  c.isAlphanum || c == '_' || c == '-'

/-- A whole number that fits sixty-four bits, with or without a sign. -/
def whole? (cs : List Char) : Option Int :=
  let (negative, digits) := Literal.splitSign cs
  if digits.isEmpty || !digits.all Char.isDigit then none
  else
    let n := Literal.spelled digits
    if negative then if n ≤ Nat.pow 2 63 then some (-n) else none
    else if n < Nat.pow 2 64 then some n else none

/-- The meaning of a value without quotes: a number with a point is a double. -/
def wordValue (word : List Char) : Json :=
  let literal := if word.contains '.' then Literal.parse? word else none
  match literal, whole? word with
  | some l, _ => .float (l.double?.getD (.infinity l.negative))
  | none, some i => .int i
  | none, none => .str (String.ofList word)

/-- The number in so many hexadecimal digits, and the rest. -/
def readHex? (value : Nat) : (count : Nat) → List Char → Option (Nat × List Char)
  | 0, cs => some (value, cs)
  | _ + 1, [] => none
  | count + 1, c :: cs => do readHex? (value * 16 + (← Json.hexValue? c)) count cs

/-- The characters that stand for themselves between quotes. -/
def isQuotable (c : Char) : Bool :=
  c == '\t' || (' ' ≤ c && c != '\x7f')

/-- What the escapes in a text between quotes stand for. -/
def unescape? (done : List Char) : (fuel : Nat) → List Char → Option String
  | _, [] => some (String.ofList done.reverse)
  | 0, _ => none
  | fuel + 1, '\\' :: e :: cs =>
    let codePoint (count : Nat) : Option String := do
      let (n, rest) ← readHex? 0 count cs
      if n < 0xD800 ∨ (0xE000 ≤ n ∧ n ≤ 0x10FFFF) then
        unescape? (Char.ofNat n :: done) fuel rest
      else none
    match e with
    | 'u' => codePoint 4
    | 'U' => codePoint 8
    | '/' => none
    | _ => do unescape? ((← Json.simpleEscape? e) :: done) fuel cs
  | fuel + 1, c :: cs =>
    if isQuotable c && c != '\\' then unescape? (c :: done) fuel cs else none

/-- The text up to the closing quote, as it is written, and the rest. -/
def splitQuoted? (done : List Char) : (escaped : Bool) → List Char →
    Option (List Char × List Char)
  | _, [] => none
  | true, c :: cs => splitQuoted? (c :: done) false cs
  | false, c :: cs =>
    if c = '"' then some (done.reverse, cs) else splitQuoted? (c :: done) (c == '\\') cs

/-- A text whose opening quote has been read, and the rest. -/
def readQuoted? (cs : List Char) : Option (String × List Char) := do
  let (inside, rest) ← splitQuoted? [] false cs
  return (← unescape? [] inside.length inside, rest)

/-- The name of a member, and the rest. -/
def readName? (cs : List Char) : Option (String × List Char) :=
  match cs with
  | '"' :: rest => readQuoted? rest
  | _ =>
    let (name, rest) := cs.span isNameChar
    if name.isEmpty then none else some (String.ofList name, rest)

/-- The rest of the text after a word, if it begins with the word. -/
def after? (word : String) (cs : List Char) : Option (List Char) :=
  if word.toList.isPrefixOf cs then some (cs.drop word.length) else none

/-- The text after the white space at its start. -/
def skipFiller (cs : List Char) : List Char :=
  cs.dropWhile isFiller

mutual

/-- A value with the white space around it, and the rest. -/
def readShort? : (fuel : Nat) → List Char → Option (Json × List Char)
  | 0, _ => none
  | fuel + 1, cs => do
    let cs := skipFiller cs
    let (v, cs) ←
      match after? "true" cs, after? "false" cs with
      | some rest, _ => some (.bool true, rest)
      | none, some rest => some (.bool false, rest)
      | none, none =>
        match cs with
        | '{' :: rest => readShortMembers? fuel [] rest
        | '[' :: rest => readShortItems? fuel [] rest
        | '"' :: rest => (readQuoted? rest).map fun (s, rest) => (.str s, rest)
        | '\'' :: c :: '\'' :: rest => some (.str (String.singleton c), rest)
        | '\'' :: _ => none
        | _ =>
          let (word, rest) := cs.span fun c => !isSeparator c
          some (wordValue (Text.trim (String.ofList word)).toList, rest)
    return (v, skipFiller cs)

/-- The items of a list up to its closing bracket; a comma may come after the last one. -/
def readShortItems? : (fuel : Nat) → List Json → List Char → Option (Json × List Char)
  | 0, _, _ => none
  | fuel + 1, done, cs =>
    match cs with
    | ']' :: rest => some (.arr done.reverse, rest)
    | _ => do
      let (v, cs) ← readShort? fuel cs
      match cs with
      | ',' :: rest => readShortItems? fuel (v :: done) rest
      | ']' :: rest => return (.arr (v :: done).reverse, rest)
      | _ => none

/-- The members of a map up to its closing brace; a comma may come after the last one. -/
def readShortMembers? : (fuel : Nat) → List (String × Json) → List Char →
    Option (Json × List Char)
  | 0, _, _ => none
  | fuel + 1, done, cs =>
    match cs with
    | '}' :: rest => some (.obj done.reverse, rest)
    | _ => do
      let (name, cs) ← readName? (skipFiller cs)
      match skipFiller cs with
      | '=' :: cs =>
        let (v, cs) ← readShort? fuel cs
        match cs with
        | ',' :: rest => readShortMembers? fuel ((name, v) :: done) rest
        | '}' :: rest => return (.obj ((name, v) :: done).reverse, rest)
        | _ => none
      | _ => none

end

/-- The meaning of a variable's value. -/
def variableValue (text : String) : Json :=
  let cs := (Text.trim text).toList
  match readShort? (2 * cs.length + 4) cs with
  | some (v, []) => v.normalize
  | _ => .str (String.ofList cs)

/-! ## Names -/

/-- How the names of the variables begin. -/
def variableStart : String := "STEPUP__"

/-- The text with a point for every two underscores. -/
def dotted : List Char → List Char
  | '_' :: '_' :: rest => '.' :: dotted rest
  | c :: rest => c :: dotted rest
  | [] => []

/-- The path to the setting that a variable gives, if it gives one.  Case does not count. -/
def variablePath? (name : String) : Option (List String) :=
  let cs := (Text.trim name).toList
  let start := variableStart.toList
  if (cs.take start.length).map Char.toUpper = start then
    let segments := (dotted (cs.drop start.length)).splitOnP (· == '.')
    if segments.any List.isEmpty then none
    else some (segments.map fun s => String.ofList (s.map Char.toLower))
  else none

/-! ## The layer -/

/-- The layer that variables make, in the order of their names; the later of two for one setting
holds. -/
def ofVariables (environment : List (String × String)) : Json :=
  environment.foldl (fun layer (name, text) =>
    match variablePath? name with
    | some path => layer.overlay (Json.atPath path (variableValue text))
    | none => layer) (.obj [])

end StepUp.Settings
