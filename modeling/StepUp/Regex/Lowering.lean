import StepUp.Regex.Dialect
import StepUp.Regex.Reader

/-!
# From syntax trees to expressions

Flags apply from where they are switched to the end of the group, across its branches.  Without
Unicode a pattern may still match nothing but whole characters, so the dot and every class that
would accept a byte beyond ASCII are refused there.  Which Unicode queries have an answer, and which
expressions are too large, is up to the dialect.
-/

namespace StepUp.Regex

variable [Dialect]

/-! ## Sets as written -/

/-- The flags that the meaning of a set depends on. -/
structure SetFlags where
  unicode : Bool
  caseInsensitive : Bool

namespace SetFlags

/-- The class, or what is left of it where Unicode is switched off: there it has to be ASCII. -/
def checked (f : SetFlags) (a : CharClass) : Except Fault CharClass :=
  if !f.unicode && a.acceptsHighByte then .error .notUnicode else .ok a

/-- The class with its case ignored, if the flags say so. -/
def folded (f : SetFlags) (a : CharClass) : CharClass :=
  if !f.caseInsensitive then a else if f.unicode then a.fold else a.foldAscii

/-- The class with its case ignored if the flags say so, and then negated if it is written so. -/
def finish (f : SetFlags) (negated : Bool) (a : CharClass) : Except Fault CharClass :=
  let a := f.folded a
  f.checked (if negated then a.negate else a)

/-- A character of a set; without Unicode it has to be ASCII. -/
def char (f : SetFlags) (l : Literal) : Except Fault Char :=
  if !f.unicode && 0x80 ≤ l.char.toNat then .error .notUnicode else .ok l.char

end SetFlags

mutual

/-- The characters of a set under the given flags.  The case is ignored within a class before the
class is negated. -/
def SetTree.toClass (f : SetFlags) : SetTree → Except Fault CharClass
  | .literal l => do return .single (← f.char l)
  | .range a b => do return .range (← f.char a) (← f.char b)
  | .ascii kind negated => f.finish negated kind.toClass
  | .escape kind negated =>
    let a := kind.toClass f.unicode
    f.checked (if negated then a.negate else a)
  | .unicode query negated =>
    if !f.unicode then .error .notUnicode
    else
      match Dialect.query? query with
      | some test => f.finish negated (.wide test)
      | none => .error .unknownProperty
  | .bracketed negated s => do f.finish negated (← s.toClass f)
  | .union items => SetTree.unionClass f items
  | .binary op a b => do
    let a := f.folded (← a.toClass f)
    let b := f.folded (← b.toClass f)
    match op with
    | .intersection => return a.inter b
    | .difference => return a.diff b
    | .symmetricDifference => return a.symmDiff b

/-- The characters of any of some sets. -/
def SetTree.unionClass (f : SetFlags) : List SetTree → Except Fault CharClass
  | [] => .ok .none
  | s :: rest => do return (← s.toClass f).union (← SetTree.unionClass f rest)

end

/-! ## Flags -/

/-- The state of the flags that change what a pattern matches. -/
structure Flags where
  caseInsensitive : Bool := false
  multiLine : Bool := false
  dotMatchesNewLine : Bool := false
  unicode : Bool := true
  crlf : Bool := false
deriving DecidableEq, Repr

namespace Flags

/-- The flags after some of them are switched. -/
def apply (f : Flags) (changes : FlagChanges) : Flags where
  caseInsensitive := (changes.state? .caseInsensitive).getD f.caseInsensitive
  multiLine := (changes.state? .multiLine).getD f.multiLine
  dotMatchesNewLine := (changes.state? .dotMatchesNewLine).getD f.dotMatchesNewLine
  unicode := (changes.state? .unicode).getD f.unicode
  crlf := (changes.state? .crlf).getD f.crlf

/-- The flags that matter for sets. -/
def forSets (f : Flags) : SetFlags :=
  { unicode := f.unicode, caseInsensitive := f.caseInsensitive }

/-- The class of a literal character.  Without Unicode two hexadecimal digits write a byte, which
has to be ASCII. -/
def literal (f : Flags) (l : Literal) : Except Fault CharClass :=
  if !f.unicode && l.isByte && 0x80 ≤ l.char.toNat then .error .notUnicode
  else .ok (f.forSets.folded (.single l.char))

/-- What the dot matches. -/
def dot (f : Flags) : Except Fault CharClass :=
  if !f.unicode then .error .notUnicode
  else
    let accepts (c : Char) : Bool :=
      f.dotMatchesNewLine || (c != '\n' && !(f.crlf && c == '\r'))
    .ok ⟨accepts, 16⟩

/-- The assertion under these flags. -/
def look (f : Flags) : Assertion → Look
  | .textStart => .textStart
  | .textEnd => .textEnd
  | .lineStart => if !f.multiLine then .textStart else if f.crlf then .crlfStart else .lineStart
  | .lineEnd => if !f.multiLine then .textEnd else if f.crlf then .crlfEnd else .lineEnd
  | .word side => .word side f.unicode

end Flags

/-! ## Patterns -/

mutual

/-- The expression of a pattern, and the flags for what follows it. -/
def Tree.toRegex (f : Flags) : Tree → Except Fault (Regex × Flags)
  | .empty => .ok (.empty, f)
  | .flags changes => .ok (.empty, f.apply changes)
  | .literal l => do return (.chars (← f.literal l), f)
  | .dot => do return (.chars (← f.dot), f)
  | .assertion a => .ok (.look (f.look a), f)
  | .set s => do return (.chars (← s.toClass f.forSets), f)
  | .repetition body min max => do
    let (r, f) ← body.toRegex f
    return (r.iterate min max, f)
  | .capture body => do
    let (r, _) ← body.toRegex f
    return (r, f)
  | .group changes body => do
    let (r, _) ← body.toRegex (f.apply changes)
    return (r, f)
  | .alternation branches => Tree.toAlternation f branches
  | .sequence items => Tree.toSequence f items

/-- The expression of the items of a sequence. -/
def Tree.toSequence (f : Flags) : List Tree → Except Fault (Regex × Flags)
  | [] => .ok (.empty, f)
  | [t] => t.toRegex f
  | t :: rest => do
    let (a, f) ← t.toRegex f
    let (b, f) ← Tree.toSequence f rest
    return (.seq a b, f)

/-- The expression of the branches of an alternation. -/
def Tree.toAlternation (f : Flags) : List Tree → Except Fault (Regex × Flags)
  | [] => .ok (.empty, f)
  | [t] => t.toRegex f
  | t :: rest => do
    let (a, f) ← t.toRegex f
    let (b, f) ← Tree.toAlternation f rest
    return (.alt a b, f)

end

/-- The expression that a text writes. -/
def compile (text : String) : Except Fault Regex := do
  let tree ← Tree.parse text
  let (r, _) ← tree.toRegex {}
  if Dialect.fits r then return r else throw .tooLarge

end StepUp.Regex
