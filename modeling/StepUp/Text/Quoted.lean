import StepUp.Unicode.Property

/-!
# Texts quoted for a reader

A text in double quotes in which everything that a reader could not see is spelled out: quotes and
backslashes get a backslash, and characters that are not printed, or that would attach themselves
to the character before them, are written by their number.
-/

namespace StepUp.Text

/-- The characters shown for one character of a quoted text. -/
def shown (c : Char) : List Char :=
  match c with
  | '\x00' => ['\\', '0']
  | '\t' => ['\\', 't']
  | '\r' => ['\\', 'r']
  | '\n' => ['\\', 'n']
  | '\\' => ['\\', '\\']
  | '"' => ['\\', '"']
  | _ =>
    if Unicode.isGraphemeExtend c || !Unicode.isPrintable c then
      ['\\', 'u', '{'] ++ Nat.toDigits 16 c.toNat ++ ['}']
    else [c]

/-- The text in quotes. -/
def quoted (s : String) : String :=
  "\"" ++ String.ofList (s.toList.flatMap shown) ++ "\""

end StepUp.Text
