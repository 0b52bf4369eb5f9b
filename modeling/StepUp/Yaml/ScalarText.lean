import StepUp.Yaml.Place
import StepUp.Yaml.Scalar

/-!
# The text of scalars

How a scalar is written: plain, between apostrophes or between quotation marks, in each case over
one line or several.  The end of a line within a scalar stands for a space, and with empty lines
after it for as many line feeds as these are; the white space around it does not count.
-/

namespace StepUp.Yaml

/-! ## Folding -/

/-- The white space since the last character that is none, backwards. -/
inductive Gap where
  /-- Spaces and tabs on one line. -/
  | spaces (cs : List Char)
  /-- The end of a line, which may be escaped, and the ends of the empty lines after it. -/
  | breaks (first : Option Char) (more : List Char)

namespace Gap

/-- No white space. -/
def nothing : Gap := spaces []

/-- A space or a tab more; around the ends of lines it does not count. -/
def addSpace (c : Char) : Gap → Gap
  | spaces cs => spaces (c :: cs)
  | g => g

/-- The end of a line more. -/
def addBreak (c : Char) : Gap → Gap
  | spaces _ => breaks (some c) []
  | breaks first more => breaks first (c :: more)

/-- Whether there is any white space. -/
def isNothing : Gap → Bool
  | spaces cs => cs.isEmpty
  | breaks .. => false

/-- Whether a line ends in it. -/
def isBroken : Gap → Bool
  | spaces _ => false
  | breaks .. => true

/-- What the white space stands for, backwards. -/
def folded : Gap → List Char
  | spaces cs => cs
  | breaks none more => more
  | breaks (some '\n') [] => [' ']
  | breaks (some '\n') more => more
  | breaks (some c) more => more ++ [c]

end Gap

/-! ## Plain scalars -/

/-- Whether a plain scalar may begin with the text. -/
def startsPlain (bracketed : Bool) : List Char → Bool
  | [] => false
  | c :: rest =>
    if c = '-' then !endsWord rest
    else if c = '?' ∨ c = ':' then !bracketed && !endsWord rest
    else !(isSpace c || isBreak c || isBracketOrComma c ||
      c matches '#' | '&' | '*' | '!' | '|' | '>' | '\'' | '"' | '%' | '@' | '\x60')

/-- Whether a plain scalar ends before its next word. -/
def endsPlain (bracketed : Bool) (indent : Nat) (gap : Gap) (p : Place) : Bool :=
  !gap.isNothing &&
    (p.rest.head? == some '#' || p.atMarker ||
      (!bracketed && gap.isBroken && p.column < indent))

/-- The plain scalar that goes on here after the characters `done`, which are in reverse, and the
white space `gap`.  Outside of brackets its further lines stand at least at the column `indent`. -/
def plainFrom? (bracketed : Bool) (indent : Nat) (done : List Char) (gap : Gap)
    (line column : Nat) : List Char → Option (String × Place)
  | [] => some (String.ofList done.reverse, ⟨[], line, column⟩)
  | c :: rest =>
    let here : Place := ⟨c :: rest, line, column⟩
    if isSpace c then
      if c = '\t' ∧ gap.isBroken ∧ column < indent then none
      else plainFrom? bracketed indent done (gap.addSpace c) line (column + 1) rest
    else if isBreak c then plainFrom? bracketed indent done (gap.addBreak c) (line + 1) 0 rest
    else if endsPlain bracketed indent gap here || (c == ':' && endsWord rest) ||
        (bracketed && isBracketOrComma c) then
      some (String.ofList done.reverse, here)
    else if bracketed && c == ':' && rest.head?.any (fun d => isBracketOrComma d || d == '?') then
      none
    else
      plainFrom? bracketed indent (c :: (gap.folded ++ done)) .nothing line (column + 1) rest

/-! ## Scalars between apostrophes -/

/-- The scalar up to the closing apostrophe; two of them in a row stand for one. -/
def apostrophedFrom? (done : List Char) (gap : Gap) (line column : Nat) :
    List Char → Option (String × Place)
  | [] => none
  | c :: rest =>
    if Place.atMarker ⟨c :: rest, line, column⟩ then none
    else if isSpace c then apostrophedFrom? done (gap.addSpace c) line (column + 1) rest
    else if isBreak c then apostrophedFrom? done (gap.addBreak c) (line + 1) 0 rest
    else
      let done := gap.folded ++ done
      if c = '\'' then
        match rest with
        | '\'' :: rest => apostrophedFrom? ('\'' :: done) .nothing line (column + 2) rest
        | _ => some (String.ofList done.reverse, ⟨rest, line, column + 1⟩)
      else apostrophedFrom? (c :: done) .nothing line (column + 1) rest

/-! ## Scalars between quotation marks -/

/-- What of an escape has been read. -/
inductive Escape where
  /-- There is none. -/
  | none
  /-- The backslash. -/
  | begun
  /-- Digits of a code point, with so many left after the next one. -/
  | digits (left value : Nat)

/-- What an escape of one letter stands for. -/
def letterEscape? : Char → Option Char
  | '0' => some '\x00'
  | 'a' => some '\x07'
  | 'b' => some '\x08'
  | 't' | '\t' => some '\t'
  | 'n' => some '\n'
  | 'v' => some '\x0b'
  | 'f' => some '\x0c'
  | 'r' => some '\r'
  | 'e' => some '\x1b'
  | ' ' => some ' '
  | '"' => some '"'
  | '/' => some '/'
  | '\\' => some '\\'
  | 'N' => some '\u0085'
  | '_' => some '\u00a0'
  | 'L' => some '\u2028'
  | 'P' => some '\u2029'
  | _ => none

/-- How many more digits than one follow the letter of an escape by code point. -/
def moreDigits? : Char → Option Nat
  | 'x' => some 1
  | 'u' => some 3
  | 'U' => some 7
  | _ => none

/-- The character with a code point; surrogates are none. -/
def charOf? (n : Nat) : Option Char :=
  if n < 0xD800 ∨ (0xE000 ≤ n ∧ n ≤ 0x10FFFF) then some (Char.ofNat n) else none

/-- The scalar up to the closing quotation mark. -/
def quotedFrom? (escape : Escape) (done : List Char) (gap : Gap) (line column : Nat) :
    List Char → Option (String × Place)
  | [] => none
  | c :: rest =>
    match escape with
    | .digits left value => do
      let value := value * 16 + (← Json.hexValue? c)
      match left with
      | 0 => quotedFrom? .none ((← charOf? value) :: done) .nothing line (column + 1) rest
      | left + 1 => quotedFrom? (.digits left value) done .nothing line (column + 1) rest
    | .begun =>
      if isBreak c then quotedFrom? .none done (.breaks none []) (line + 1) 0 rest
      else
        match moreDigits? c with
        | some left => quotedFrom? (.digits left 0) done .nothing line (column + 1) rest
        | none => do
          quotedFrom? .none ((← letterEscape? c) :: done) .nothing line (column + 1) rest
    | .none =>
      if Place.atMarker ⟨c :: rest, line, column⟩ then none
      else if isSpace c then quotedFrom? .none done (gap.addSpace c) line (column + 1) rest
      else if isBreak c then quotedFrom? .none done (gap.addBreak c) (line + 1) 0 rest
      else
        let done := gap.folded ++ done
        if c = '"' then some (String.ofList done.reverse, ⟨rest, line, column + 1⟩)
        else if c = '\\' then quotedFrom? .begun done .nothing line (column + 1) rest
        else quotedFrom? .none (c :: done) .nothing line (column + 1) rest

/-! ## Scalars -/

/-- The scalar that stands here, and the place after it. -/
def Scalar.read? (bracketed : Bool) (indent : Nat) (p : Place) : Option (Scalar × Place) :=
  match p.rest with
  | '\'' :: rest =>
    (apostrophedFrom? [] .nothing p.line (p.column + 1) rest).map fun (text, q) =>
      ({ text, plain := false }, q)
  | '"' :: rest =>
    (quotedFrom? .none [] .nothing p.line (p.column + 1) rest).map fun (text, q) =>
      ({ text, plain := false }, q)
  | cs =>
    if startsPlain bracketed cs then
      (plainFrom? bracketed indent [] .nothing p.line p.column cs).map fun (text, q) =>
        ({ text, plain := true }, q)
    else none

end StepUp.Yaml
