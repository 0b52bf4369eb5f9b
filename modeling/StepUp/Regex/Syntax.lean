/-!
# Syntax trees of patterns

A pattern as it was written: what its groups, classes and flags are, before the flags are applied.
-/

namespace StepUp.Regex

/-- A character in a pattern.  One written with two hexadecimal digits stands for a byte where
Unicode is switched off. -/
structure Literal where
  char : Char
  isByte : Bool := false
deriving DecidableEq, Repr

/-- The flags that a pattern can switch. -/
inductive Flag where
  | caseInsensitive
  | multiLine
  | dotMatchesNewLine
  | swapGreed
  | unicode
  | crlf
  | ignoreWhitespace
deriving DecidableEq, Repr

/-- A list of flags as written, each with the state it is switched to. -/
abbrev FlagChanges := List (Flag × Bool)

/-- The state that a list of flags switches one flag to. -/
def FlagChanges.state? (changes : FlagChanges) (f : Flag) : Option Bool :=
  (changes.find? fun c => c.1 == f).map (·.2)

/-- The classes with an escape of one letter: digits, white space and word characters. -/
inductive EscapeClass where
  | digit | space | word
deriving DecidableEq, Repr

/-- The classes of ASCII characters that have names. -/
inductive AsciiClass where
  | alnum | alpha | ascii | blank | cntrl | digit | graph | lower | print | punct | space | upper
  | word | xdigit
deriving DecidableEq, Repr

/-- The class with a name. -/
def AsciiClass.ofName? : String → Option AsciiClass
  | "alnum" => some alnum
  | "alpha" => some alpha
  | "ascii" => some ascii
  | "blank" => some blank
  | "cntrl" => some cntrl
  | "digit" => some digit
  | "graph" => some graph
  | "lower" => some lower
  | "print" => some print
  | "punct" => some punct
  | "space" => some space
  | "upper" => some upper
  | "word" => some word
  | "xdigit" => some xdigit
  | _ => none

/-- A class asked for by Unicode's properties. -/
inductive UnicodeQuery where
  | name (name : String)
  | value (property value : String)
deriving DecidableEq, Repr

/-- The operations between the sets of a bracketed class. -/
inductive SetOp where
  | intersection | difference | symmetricDifference
deriving DecidableEq, Repr

/-- A set of characters as written.  The lists of a union have no or at least two members. -/
inductive SetTree where
  | literal (l : Literal)
  | range (first last : Literal)
  | ascii (kind : AsciiClass) (negated : Bool)
  | escape (kind : EscapeClass) (negated : Bool)
  | unicode (query : UnicodeQuery) (negated : Bool)
  | bracketed (negated : Bool) (set : SetTree)
  | union (items : List SetTree)
  | binary (op : SetOp) (left right : SetTree)

/-- A set from the items of a union. -/
def SetTree.ofItems : List SetTree → SetTree
  | [item] => item
  | items => .union items

/-- The sides of a boundary of words that an assertion looks at. -/
inductive WordSide where
  | boundary | noBoundary | start | stop | startHalf | stopHalf
deriving DecidableEq, Repr

/-- Assertions about a position. -/
inductive Assertion where
  | lineStart | lineEnd | textStart | textEnd
  | word (side : WordSide)
deriving DecidableEq, Repr

/-- A pattern as written.  The lists of an alternation or a sequence have at least two members. -/
inductive Tree where
  | empty
  | flags (changes : FlagChanges)
  | literal (l : Literal)
  | dot
  | assertion (a : Assertion)
  | set (s : SetTree)
  | repetition (body : Tree) (min : Nat) (max : Option Nat)
  | capture (body : Tree)
  | group (changes : FlagChanges) (body : Tree)
  | alternation (branches : List Tree)
  | sequence (items : List Tree)

namespace Tree

/-- A sequence of items. -/
def ofItems : List Tree → Tree
  | [] => .empty
  | [item] => item
  | items => .sequence items

/-- An alternation of branches. -/
def ofBranches : List Tree → Tree
  | [branch] => branch
  | branches => .alternation branches

end Tree

/-! ## Nesting -/

mutual

/-- How deep the sets of a class are nested. -/
def SetTree.depth : SetTree → Nat
  | .bracketed _ s => s.depth + 1
  | .union items => SetTree.depthOf items + 1
  | .binary _ a b => max a.depth b.depth + 1
  | _ => 0

/-- The depth of the deepest of some sets. -/
def SetTree.depthOf : List SetTree → Nat
  | [] => 0
  | s :: rest => max s.depth (SetTree.depthOf rest)

end

mutual

/-- How deep groups, repetitions, alternations, sequences and classes are nested. -/
def Tree.depth : Tree → Nat
  | .set s => s.depth
  | .repetition body _ _ => body.depth + 1
  | .capture body => body.depth + 1
  | .group _ body => body.depth + 1
  | .alternation branches => Tree.depthOf branches + 1
  | .sequence items => Tree.depthOf items + 1
  | _ => 0

/-- The depth of the deepest of some patterns. -/
def Tree.depthOf : List Tree → Nat
  | [] => 0
  | t :: rest => max t.depth (Tree.depthOf rest)

end

end StepUp.Regex
