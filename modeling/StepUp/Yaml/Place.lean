/-!
# Places in a document

What is left of a document together with the line and the column that it starts in: a document's
structure is told by the columns of its parts and by what stands on one line.  A place moves on
over the white space and the comments between two parts by `Place.skip`.
-/

namespace StepUp.Yaml

/-! ## Characters -/

/-- The characters that a document may hold. -/
def isReadable (c : Char) : Bool :=
  let n := c.toNat
  n == 0x9 || n == 0xA || n == 0xD || (0x20 ≤ n && n ≤ 0x7E) || n == 0x85 ||
    (0xA0 ≤ n && n ≤ 0xFFFD) || 0x10000 ≤ n

/-- Spaces and tabs. -/
def isSpace (c : Char) : Bool :=
  c == ' ' || c == '\t'

/-- The ends of lines, once every ordinary one is a line feed. -/
def isBreak (c : Char) : Bool :=
  c == '\n' || c == '\u2028' || c == '\u2029'

/-- The text with every ordinary end of a line written as a line feed. -/
def unifyBreaks : List Char → List Char
  | '\r' :: '\n' :: rest => '\n' :: unifyBreaks rest
  | c :: rest => (if c = '\r' ∨ c = '\u0085' then '\n' else c) :: unifyBreaks rest
  | [] => []

/-- Whether a word ends before a text: at white space, and where nothing is left. -/
def endsWord : List Char → Bool
  | [] => true
  | c :: _ => isSpace c || isBreak c

/-- The characters that lists and maps in brackets are made of. -/
def isBracketOrComma (c : Char) : Bool :=
  c matches ',' | '[' | ']' | '{' | '}'

/-! ## Places -/

/-- A place in a document. -/
structure Place where
  rest : List Char
  line : Nat
  column : Nat

namespace Place

/-- The place some characters further on the same line. -/
def advance (p : Place) (n : Nat) : Place :=
  { p with rest := p.rest.drop n, column := p.column + n }

/-- The place of the next part, over spaces, comments and ends of lines.  Tabs are passed over where
`tabs` holds, and on further lines only between brackets. -/
def skipFrom (bracketed : Bool) (tabs comment : Bool) (line column : Nat) : List Char → Place
  | [] => ⟨[], line, column⟩
  | c :: rest =>
    if isBreak c then skipFrom bracketed bracketed false (line + 1) 0 rest
    else if comment || c == ' ' || (c == '\t' && tabs) then
      skipFrom bracketed tabs comment line (column + 1) rest
    else if c == '#' then skipFrom bracketed tabs true line (column + 1) rest
    else ⟨c :: rest, line, column⟩

/-- The place of the next part outside of brackets. -/
def skip (p : Place) (tabs : Bool) : Place :=
  skipFrom false tabs false p.line p.column p.rest

/-- The place of the next part between brackets. -/
def skipBracketed (p : Place) : Place :=
  skipFrom true true false p.line p.column p.rest

/-- The place after the spaces and tabs that stand here. -/
def skipSpaces (p : Place) : Place :=
  p.advance (p.rest.takeWhile isSpace).length

/-- Whether nothing is left. -/
def atEnd (p : Place) : Bool :=
  p.rest.isEmpty

/-- Whether a line begins here with three given characters as a word of their own. -/
def atLineMark (mark : Char) (p : Place) : Bool :=
  p.column == 0 &&
    match p.rest with
    | a :: b :: c :: rest => a == mark && b == mark && c == mark && endsWord rest
    | _ => false

/-- Whether a document starts or ends here. -/
def atMarker (p : Place) : Bool :=
  p.atLineMark '-' || p.atLineMark '.'

/-- Whether a part that has to stand at least at the given column is missing here. -/
def leaves (p : Place) (indent : Nat) : Bool :=
  p.atEnd || p.column < indent || p.atMarker

/-- Whether an entry of a list begins here. -/
def atDash (p : Place) : Bool :=
  match p.rest with
  | '-' :: rest => endsWord rest
  | _ => false

/-- The place after the colon of a key that stands at `start` and ends here. -/
def afterColon? (start p : Place) : Option Place :=
  let q := p.skipSpaces
  match q.rest with
  | ':' :: rest => if p.line = start.line ∧ endsWord rest then some (q.advance 1) else none
  | _ => none

end Place

end StepUp.Yaml
