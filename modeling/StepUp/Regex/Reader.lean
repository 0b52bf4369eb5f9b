import StepUp.Regex.Escape
import StepUp.Unicode.Property

/-!
# Reading patterns

From the text of a pattern to its syntax tree.  Groups and classes are read by recursion; the fuel
of a reader is the length of the text, of which every step takes at least a character.
-/

namespace StepUp.Regex

open Text (isBlank)

/-! ## Classes in brackets -/

/-- A class such as `[:alpha:]`, whose opening bracket has been read. -/
def readAsciiClass? (cs : List Char) : Option (SetTree × List Char) :=
  match cs with
  | ':' :: cs =>
    let (negated, cs) :=
      match cs with
      | '^' :: cs => (true, cs)
      | _ => (false, cs)
    match cs.dropWhile (· != ':') with
    | ':' :: ']' :: rest =>
      (AsciiClass.ofName? (String.ofList (cs.takeWhile (· != ':')))).map fun kind =>
        (.ascii kind negated, rest)
    | _ => none
  | _ => none

/-- The character that comes after a hyphen, for the question whether the hyphen makes a range.  In
the verbose mode white space does not count, nor does the sign that begins a comment. -/
def peek? (verbose : Bool) (cs : List Char) : Option Char :=
  if verbose then
    let next :=
      match cs.dropWhile isBlank with
      | '#' :: rest => rest.dropWhile isBlank
      | rest => rest
    (next.head?).or cs.head?
  else cs.head?

/-- One item of a class that is no class in brackets itself. -/
def readItem (verbose : Bool) (cs : List Char) : Except Fault (Escape × List Char) :=
  match cs with
  | '\\' :: rest => readEscape verbose rest
  | c :: rest => .ok (.literal { char := c }, rest)
  | [] => .error .unclosedClass

/-- A single item or a range of a class. -/
def readRange (verbose : Bool) (cs : List Char) : Except Fault (SetTree × List Char) := do
  let (first, rest) ← readItem verbose cs
  let rest ← skipTo verbose .unclosedClass rest
  let single : Except Fault (SetTree × List Char) :=
    match first with
    | .literal l => .ok (.literal l, rest)
    | .set s => .ok (s, rest)
    | .assertion _ => .error .badClassItem
  match rest with
  | '-' :: after =>
    if peek? verbose after = some ']' ∨ peek? verbose after = some '-' then single
    else
      let after ← skipTo verbose .unclosedClass after
      let (last, rest) ← readItem verbose after
      match first, last with
      | .literal a, .literal b =>
        if a.char ≤ b.char then return (.range a b, rest) else throw .badRange
      | _, _ => throw .badRange
  | _ => single

/-- The hyphens at the start of a class, which stand for themselves. -/
def readHyphens (verbose : Bool) (done : List SetTree) : (fuel : Nat) → List Char →
    Except Fault (List SetTree × List Char)
  | 0, cs => .ok (done, cs)
  | fuel + 1, cs =>
    match cs with
    | '-' :: rest => do
      let rest ← skipTo verbose .unclosedClass rest
      readHyphens verbose (.literal { char := '-' } :: done) fuel rest
    | _ => .ok (done, cs)

/-- The start of a class, after its opening bracket: whether it is negated, and the hyphens or the
bracket that stand for themselves there. -/
def readClassStart (verbose : Bool) (cs : List Char) :
    Except Fault (Bool × List SetTree × List Char) := do
  let cs ← skipTo verbose .unclosedClass cs
  let (negated, cs) ←
    match cs with
    | '^' :: rest => do pure (true, ← skipTo verbose .unclosedClass rest)
    | _ => pure (false, cs)
  let (items, cs) ← readHyphens verbose [] cs.length cs
  match items, cs with
  | [], ']' :: rest =>
    return (negated, [.literal { char := ']' }], ← skipTo verbose .unclosedClass rest)
  | _, _ => return (negated, items, cs)

/-- The set that has been read so far: the left operand and the items after the operator. -/
def pendingSet (left : Option (SetTree × SetOp)) (items : List SetTree) : SetTree :=
  let right := SetTree.ofItems items.reverse
  match left with
  | some (l, op) => .binary op l right
  | none => right

/-- A class from after its start to after its closing bracket.  The operators between sets have one
precedence and group to the left. -/
def readClass (verbose negated : Bool) (left : Option (SetTree × SetOp)) (items : List SetTree) :
    (fuel : Nat) → List Char → Except Fault (SetTree × List Char)
  | 0, _ => .error .unclosedClass
  | fuel + 1, cs =>
    let operator (op : SetOp) (rest : List Char) :=
      readClass verbose negated (some (pendingSet left items, op)) [] fuel rest
    match skip verbose cs with
    | [] => .error .unclosedClass
    | '[' :: rest =>
      match readAsciiClass? rest with
      | some (item, rest) => readClass verbose negated left (item :: items) fuel rest
      | none => do
        let (inner, start, rest) ← readClassStart verbose rest
        let (item, rest) ← readClass verbose inner none start fuel rest
        readClass verbose negated left (item :: items) fuel rest
    | ']' :: rest => .ok (.bracketed negated (pendingSet left items), rest)
    | '&' :: '&' :: rest => operator .intersection rest
    | '-' :: '-' :: rest => operator .difference rest
    | '~' :: '~' :: rest => operator .symmetricDifference rest
    | cs => do
      let (item, rest) ← readRange verbose cs
      readClass verbose negated left (item :: items) fuel rest

/-! ## Groups -/

/-- The flag of a letter. -/
def flag? : Char → Option Flag
  | 'i' => some .caseInsensitive
  | 'm' => some .multiLine
  | 's' => some .dotMatchesNewLine
  | 'U' => some .swapGreed
  | 'u' => some .unicode
  | 'R' => some .crlf
  | 'x' => some .ignoreWhitespace
  | _ => none

/-- The flags of a group up to the colon or bracket that ends them.  No flag may come twice, and a
minus comes at most once and not at the end. -/
def readFlags (done : FlagChanges) (minus : Option Bool) : List Char →
    Except Fault (FlagChanges × List Char)
  | [] => .error .badFlags
  | c :: rest =>
    if c = ':' ∨ c = ')' then
      if minus = some false then .error .badFlags else .ok (done.reverse, c :: rest)
    else if c = '-' then
      if minus.isSome then .error .badFlags else readFlags done (some false) rest
    else
      match flag? c with
      | none => .error .badFlags
      | some f =>
        if done.any fun d => d.1 == f then .error .badFlags
        else readFlags ((f, minus.isNone) :: done) (minus.map fun _ => true) rest

/-- Whether a character may stand in the name of a group, where the first has to be a letter. -/
def isNameChar (first : Bool) (c : Char) : Bool :=
  c == '_' || (if first then Unicode.isAlphabetic c
    else c == '.' || c == '[' || c == ']' || Unicode.isAlphanumeric c)

/-- The name of a group up to its closing bracket. -/
def readGroupName (done : List Char) : List Char → Except Fault (String × List Char)
  | [] => .error .badGroupName
  | c :: rest =>
    if c = '>' then
      if done.isEmpty then .error .badGroupName else .ok (String.ofList done.reverse, rest)
    else if isNameChar done.isEmpty c then readGroupName (c :: done) rest
    else .error .badGroupName

/-- What an opening bracket begins. -/
inductive GroupStart where
  | flags (changes : FlagChanges)
  | capture (name : Option String)
  | group (changes : FlagChanges)

/-- The start of a group, after its opening bracket. -/
def readGroupStart (verbose : Bool) (cs : List Char) :
    Except Fault (GroupStart × List Char) :=
  let named (cs : List Char) : Except Fault (GroupStart × List Char) := do
    let (name, rest) ← readGroupName [] cs
    return (.capture (some name), rest)
  match skip verbose cs with
  | '?' :: '=' :: _ | '?' :: '!' :: _ | '?' :: '<' :: '=' :: _ | '?' :: '<' :: '!' :: _ =>
    .error .lookAround
  | '?' :: 'P' :: '<' :: rest => named rest
  | '?' :: '<' :: rest => named rest
  | '?' :: rest => do
    match ← readFlags [] none rest with
    | (changes, ')' :: rest) =>
      if changes.isEmpty then throw .nothingToRepeat else return (.flags changes, rest)
    | (changes, rest) => return (.group changes, rest.drop 1)
  | rest => .ok (.capture none, rest)

/-! ## Repetitions -/

/-- What a repetition repeats, and what stands before it. -/
def repeated (items : List Tree) : Except Fault (Tree × List Tree) :=
  match items with
  | [] | .empty :: _ | .flags _ :: _ => .error .nothingToRepeat
  | item :: before => .ok (item, before)

/-- The text after the sign that makes a repetition prefer few rounds, which does not change what
matches. -/
def skipLazy : List Char → List Char
  | '?' :: rest => rest
  | cs => cs

/-- The bounds of a counted repetition, after its opening brace. -/
def readCount (verbose : Bool) (cs : List Char) :
    Except Fault ((Nat × Option Nat) × List Char) := do
  let cs ← skipTo verbose .badCount cs
  let (first, cs) ← readDecimal verbose cs
  let (bounds, cs) ←
    match first, cs with
    | some n, ',' :: rest => do
      match ← skipTo verbose .badCount rest with
      | '}' :: rest => pure ((n, none), '}' :: rest)
      | cs =>
        let (second, cs) ← readDecimal verbose cs
        match second with
        | some m => pure ((n, some m), cs)
        | none => throw Fault.badCount
    | some n, cs => pure ((n, some n), cs)
    | none, _ => throw Fault.badCount
  match cs with
  | '}' :: rest =>
    if bounds.2.all (bounds.1 ≤ ·) then return (bounds, skipLazy (skip verbose rest))
    else throw .badCount
  | _ => throw .badCount

/-! ## Patterns -/

/-- What has been read of the innermost group: the names of groups so far, the branches before the
last bar and the items after it, both in reverse. -/
structure Progress where
  names : List String
  branches : List Tree := []
  items : List Tree := []

namespace Progress

/-- The progress with one item more. -/
def push (p : Progress) (t : Tree) : Progress :=
  { p with items := t :: p.items }

/-- The tree of the group. -/
def tree (p : Progress) : Tree :=
  Tree.ofBranches (Tree.ofItems p.items.reverse :: p.branches).reverse

end Progress

/-- The rest of a group or of the pattern: its tree, the names of all groups, and the text from its
closing bracket on. -/
def readGroup (verbose : Bool) (p : Progress) : (fuel : Nat) → List Char →
    Except Fault (Tree × List String × List Char)
  | 0, _ => .error .unclosedGroup
  | fuel + 1, cs =>
    let push (t : Tree) (rest : List Char) := readGroup verbose (p.push t) fuel rest
    let repetition (min : Nat) (max : Option Nat) (rest : List Char) := do
      let (body, before) ← repeated p.items
      readGroup verbose { p with items := .repetition body min max :: before } fuel rest
    let inner (verbose' : Bool) (names : List String) (rest : List Char) (make : Tree → Tree) := do
      match ← readGroup verbose' { names } fuel rest with
      | (body, names, ')' :: rest) =>
        readGroup verbose { p.push (make body) with names } fuel rest
      | _ => throw .unclosedGroup
    match skip verbose cs with
    | [] => .ok (p.tree, p.names, [])
    | ')' :: rest => .ok (p.tree, p.names, ')' :: rest)
    | '(' :: rest => do
      match ← readGroupStart verbose rest with
      | (.flags changes, rest) =>
        readGroup ((changes.state? .ignoreWhitespace).getD verbose) (p.push (.flags changes)) fuel
          rest
      | (.capture none, rest) => inner verbose p.names rest .capture
      | (.capture (some name), rest) =>
        if p.names.contains name then throw .repeatedGroupName
        else inner verbose (name :: p.names) rest .capture
      | (.group changes, rest) =>
        inner ((changes.state? .ignoreWhitespace).getD verbose) p.names rest (.group changes)
    | '|' :: rest =>
      let branch := Tree.ofItems p.items.reverse
      readGroup verbose { p with branches := branch :: p.branches, items := [] } fuel rest
    | '[' :: rest => do
      let (negated, start, rest) ← readClassStart verbose rest
      let (s, rest) ← readClass verbose negated none start (rest.length + 1) rest
      push (.set s) rest
    | '?' :: rest => repetition 0 (some 1) (skipLazy rest)
    | '*' :: rest => repetition 0 none (skipLazy rest)
    | '+' :: rest => repetition 1 none (skipLazy rest)
    | '{' :: rest => do
      let (body, before) ← repeated p.items
      let ((min, max), rest) ← readCount verbose rest
      readGroup verbose { p with items := .repetition body min max :: before } fuel rest
    | '\\' :: rest => do
      match ← readEscape verbose rest with
      | (.literal l, rest) => push (.literal l) rest
      | (.assertion a, rest) => push (.assertion a) rest
      | (.set s, rest) => push (.set s) rest
    | '.' :: rest => push .dot rest
    | '^' :: rest => push (.assertion .lineStart) rest
    | '$' :: rest => push (.assertion .lineEnd) rest
    | c :: rest => push (.literal { char := c }) rest

/-- How deep a pattern may be nested. -/
def maxNesting : Nat := 250

/-- The tree of a whole pattern. -/
def Tree.parse (text : String) : Except Fault Tree := do
  let cs := text.toList
  match ← readGroup false { names := [] } (cs.length + 1) cs with
  | (tree, _, []) => if tree.depth ≤ maxNesting then return tree else throw .tooDeep
  | _ => throw .unopenedGroup

end StepUp.Regex
