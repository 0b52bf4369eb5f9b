import StepUp.Json.Basic
import StepUp.Decimal.Shortest

/-!
# Writing JSON text

The text of a value on one line, without spaces, the members of objects in their order.  Besides
what the grammar requires, the three line separators beyond ASCII are escaped, so that the text is
one line for every reader.
-/

namespace StepUp.Json

/-- Four hexadecimal digits of a number below `2 ^ 16`. -/
def fourDigits (n : Nat) : List Char :=
  let digits := Nat.toDigits 16 n
  List.replicate (4 - digits.length) '0' ++ digits

/-- The characters written for one character of a string. -/
def escaped (c : Char) : List Char :=
  match c with
  | '"' => ['\\', '"']
  | '\\' => ['\\', '\\']
  | '\x08' => ['\\', 'b']
  | '\x0c' => ['\\', 'f']
  | '\n' => ['\\', 'n']
  | '\r' => ['\\', 'r']
  | '\t' => ['\\', 't']
  | _ =>
    let n := c.toNat
    if n < 0x20 ∨ n = 0x85 ∨ n = 0x2028 ∨ n = 0x2029 then '\\' :: 'u' :: fourDigits n else [c]

/-- A string in quotes. -/
def quoted (s : String) : String :=
  "\"" ++ String.ofList (s.toList.flatMap escaped) ++ "\""

mutual

/-- The text of a value. -/
def text : Json → String
  | .null => "null"
  | .bool b => if b then "true" else "false"
  | .int i => toString i
  | .float d => d.text
  | .str s => quoted s
  | .arr items => "[" ++ textItems items ++ "]"
  | .obj members => "\x7b" ++ textMembers members ++ "\x7d"

/-- The texts of the items of an array, with commas between them. -/
def textItems : List Json → String
  | [] => ""
  | [v] => text v
  | v :: rest => text v ++ "," ++ textItems rest

/-- The texts of the members of an object, with commas between them. -/
def textMembers : List (String × Json) → String
  | [] => ""
  | [(k, v)] => quoted k ++ ":" ++ text v
  | (k, v) :: rest => quoted k ++ ":" ++ text v ++ "," ++ textMembers rest

end

end StepUp.Json
