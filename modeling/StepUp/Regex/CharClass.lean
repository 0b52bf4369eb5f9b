import StepUp.Regex.Fault
import StepUp.Regex.Syntax
import StepUp.Unicode.CaseFolding
import StepUp.Unicode.Property
import StepUp.Unicode.Script

/-!
# Classes of characters

A class is the set of the characters that it accepts, given as a test.  Folding a class makes it
accept whatever differs only in case from a character that it accepts.  With a class goes its
weight, an estimate of how many states an automaton needs for it.
-/

namespace StepUp.Regex

/-- A set of characters. -/
structure CharClass where
  contains : Char → Bool
  weight : Nat

namespace CharClass

/-- The class of no character. -/
def none : CharClass := ⟨fun _ => false, 1⟩

/-- The class of one character. -/
def single (c : Char) : CharClass := ⟨fun d => d == c, c.utf8Size⟩

/-- The class of the characters between two, the ends included. -/
def range (a b : Char) : CharClass := ⟨fun c => a ≤ c && c ≤ b, 2⟩

/-- The class with a test that many characters pass. -/
def wide (test : Char → Bool) : CharClass := ⟨test, 1400⟩

/-- What either class accepts. -/
def union (a b : CharClass) : CharClass :=
  ⟨fun c => a.contains c || b.contains c, a.weight + b.weight⟩

/-- What both classes accept. -/
def inter (a b : CharClass) : CharClass :=
  ⟨fun c => a.contains c && b.contains c, min a.weight b.weight⟩

/-- What the first class accepts and the second does not. -/
def diff (a b : CharClass) : CharClass :=
  ⟨fun c => a.contains c && !b.contains c, a.weight⟩

/-- What exactly one of the classes accepts. -/
def symmDiff (a b : CharClass) : CharClass :=
  ⟨fun c => a.contains c != b.contains c, a.weight + b.weight⟩

/-- What the class does not accept. -/
def negate (a : CharClass) : CharClass :=
  ⟨fun c => !a.contains c, a.weight + 8⟩

/-- The class with everything that differs from its characters only in case. -/
def fold (a : CharClass) : CharClass :=
  ⟨fun c => (Unicode.caseVariants c).any a.contains, 2 * a.weight⟩

/-- The class with the ASCII letters that differ from its characters only in case. -/
def foldAscii (a : CharClass) : CharClass :=
  ⟨fun c => a.contains c || a.contains c.toLower || a.contains c.toUpper, 2 * a.weight⟩

/-- Whether the class accepts a byte that is no ASCII character. -/
def acceptsHighByte (a : CharClass) : Bool :=
  (List.range 128).any fun n => a.contains (Char.ofNat (128 + n))

end CharClass

/-! ## Named classes -/

/-- The characters of a named class of ASCII. -/
def AsciiClass.toClass : AsciiClass → CharClass
  | alnum => .union (.range '0' '9') (.union (.range 'A' 'Z') (.range 'a' 'z'))
  | alpha => .union (.range 'A' 'Z') (.range 'a' 'z')
  | ascii => .range '\x00' '\x7f'
  | blank => .union (.single '\t') (.single ' ')
  | cntrl => .union (.range '\x00' '\x1f') (.single '\x7f')
  | digit => .range '0' '9'
  | graph => .range '!' '~'
  | lower => .range 'a' 'z'
  | print => .range ' ' '~'
  | punct =>
    .union (.union (.range '!' '/') (.range ':' '@'))
      (.union (.range '[' '\x60') (.range '\x7b' '~'))
  | space => .union (.range '\t' '\r') (.single ' ')
  | upper => .range 'A' 'Z'
  | word =>
    .union (.union (.range '0' '9') (.single '_')) (.union (.range 'A' 'Z') (.range 'a' 'z'))
  | xdigit => .union (.range '0' '9') (.union (.range 'A' 'F') (.range 'a' 'f'))

/-- The characters of an escape of one letter, in Unicode or in ASCII. -/
def EscapeClass.toClass (unicode : Bool) : EscapeClass → CharClass
  | digit =>
    if unicode then ⟨fun c => Unicode.category c == .nd, 150⟩ else AsciiClass.digit.toClass
  | space => if unicode then ⟨Text.isBlank, 20⟩ else AsciiClass.space.toClass
  | word => if unicode then .wide Unicode.isWord else AsciiClass.word.toClass

/-! ## Classes by property -/

/-- A name in lower case without separators and without an `is` before it.  The abbreviation `isc`
stays as it is. -/
def looseName (name : String) : String :=
  let chars := name.toList
  let lower := chars.map Char.toLower
  let hasIs := lower.take 2 == ['i', 's']
  let kept := ((if hasIs then lower.drop 2 else lower).filter fun c =>
    c != ' ' && c != '_' && c != '-' && c.toNat < 0x80)
  if hasIs && kept == ['c'] then "isc" else String.ofList kept

/-- The test of a general category or of a group of categories. -/
def categoryTest? (name : String) : Option (Char → Bool) :=
  let is (k : Unicode.Category) : Option (Char → Bool) := some fun c => Unicode.category c == k
  let group (p : Unicode.Category → Bool) : Option (Char → Bool) :=
    some fun c => p (Unicode.category c)
  match name with
  | "any" => some fun _ => true
  | "assigned" => some fun c => Unicode.category c != .cn
  | "ascii" => some fun c => c.toNat < 0x80
  | "lu" | "uppercaseletter" => is .lu
  | "ll" | "lowercaseletter" => is .ll
  | "lt" | "titlecaseletter" => is .lt
  | "lm" | "modifierletter" => is .lm
  | "lo" | "otherletter" => is .lo
  | "mn" | "nonspacingmark" => is .mn
  | "mc" | "spacingmark" => is .mc
  | "me" | "enclosingmark" => is .me
  | "nd" | "decimalnumber" | "digit" => is .nd
  | "nl" | "letternumber" => is .nl
  | "no" | "othernumber" => is .no
  | "pc" | "connectorpunctuation" => is .pc
  | "pd" | "dashpunctuation" => is .pd
  | "ps" | "openpunctuation" => is .ps
  | "pe" | "closepunctuation" => is .pe
  | "pi" | "initialpunctuation" => is .pi
  | "pf" | "finalpunctuation" => is .pf
  | "po" | "otherpunctuation" => is .po
  | "sm" | "mathsymbol" => is .sm
  | "sc" | "currencysymbol" => is .sc
  | "sk" | "modifiersymbol" => is .sk
  | "so" | "othersymbol" => is .so
  | "zs" | "spaceseparator" => is .zs
  | "zl" | "lineseparator" => is .zl
  | "zp" | "paragraphseparator" => is .zp
  | "cc" | "control" | "cntrl" => is .cc
  | "cf" | "format" => is .cf
  | "co" | "privateuse" => is .co
  | "cn" | "unassigned" => is .cn
  | "lc" | "casedletter" => group (·.isCasedLetter)
  | "l" | "letter" => group (·.isLetter)
  | "m" | "mark" | "combiningmark" => group (·.isMark)
  | "n" | "number" => group (·.isNumber)
  | "p" | "punctuation" | "punct" => group (·.isPunctuation)
  | "s" | "symbol" => group (·.isSymbol)
  | "z" | "separator" => group (·.isSeparator)
  | "c" | "other" => group (·.isOther)
  | _ => none

/-- The test of a script. -/
def scriptTest? (name : String) : Option (Char → Bool) :=
  (Unicode.scriptCode? name).map fun code c => Unicode.script c == code

/-- The test that a query asks for.  A name alone is a property, a category or a script, in this
order. -/
def UnicodeQuery.test? : UnicodeQuery → Option (Char → Bool)
  | name n =>
    let n := looseName n
    ((Unicode.property? n).or (categoryTest? n)).or (scriptTest? n)
  | value p v =>
    let v := looseName v
    match looseName p with
    | "gc" | "generalcategory" | "category" => categoryTest? v
    | "sc" | "script" => scriptTest? v
    | "scx" | "scriptextensions" =>
      (Unicode.scriptCode? v).map fun code c => (Unicode.scripts c).contains code
    | _ => none

end StepUp.Regex
