import StepUp.Yaml.ScalarText

/-!
# Reading documents

The part of YAML that settings are written in: maps and lists by indentation or in brackets, with
scalars as keys and as values.  JSON is a part of it.  Anchors, tags, keys that are no scalars and
scalars that keep their lines are refused, as is more than one document.

Outside of brackets the value of a key stands further right than the key, except that a list may
begin at the column of the key.  The fuel of the readers is a multiple of the length of the
document, of which every second call takes at least a character.
-/

namespace StepUp.Yaml

/-! ## Values in brackets -/

mutual

/-- The value that stands here between brackets, and the place after it. -/
def readBracketed? (indent : Nat) : (fuel : Nat) → Place → Option (Json × Place)
  | 0, _ => none
  | fuel + 1, p =>
    match p.rest with
    | '[' :: _ => readItems? indent fuel [] (p.advance 1)
    | '{' :: _ => readPairs? indent fuel [] (p.advance 1)
    | _ => (Scalar.read? true indent p).map fun (s, q) => (s.value, q)

/-- The value after a colon, which may be missing before a comma or a bracket. -/
def readAfterColon? (indent : Nat) : (fuel : Nat) → Place → Option (Json × Place)
  | 0, _ => none
  | fuel + 1, p =>
    match p.rest with
    | ',' :: _ | ']' :: _ | '}' :: _ => some (.null, p)
    | _ => readBracketed? indent fuel p

/-- A scalar as a key, and its value if a colon follows on the line. -/
def readPair? (indent : Nat) : (fuel : Nat) → Place → Option (String × Option Json × Place)
  | 0, _ => none
  | fuel + 1, p => do
    let (key, q) ← Scalar.read? true indent p
    let q := q.skipBracketed
    match q.rest with
    | ':' :: _ =>
      if q.line = p.line then
        let (v, q) ← readAfterColon? indent fuel (q.advance 1).skipBracketed
        return (key.text, some v, q)
      else none
    | _ => return (key.text, none, q)

/-- The items of a list up to its closing bracket.  An item with a colon is a map of one member. -/
def readItems? (indent : Nat) : (fuel : Nat) → List Json → Place → Option (Json × Place)
  | 0, _, _ => none
  | fuel + 1, done, p => do
    let p := p.skipBracketed
    match p.rest with
    | ']' :: _ => return (.arr done.reverse, p.advance 1)
    | '[' :: _ | '{' :: _ =>
      let (v, q) ← readBracketed? indent fuel p
      readMoreItems? indent fuel (v :: done) q
    | _ =>
      match ← readPair? indent fuel p with
      | (key, some v, q) => readMoreItems? indent fuel (.obj [(key, v)] :: done) q
      | (_, none, _) =>
        let (v, q) ← readBracketed? indent fuel p
        readMoreItems? indent fuel (v :: done) q

/-- What comes after an item of a list. -/
def readMoreItems? (indent : Nat) : (fuel : Nat) → List Json → Place → Option (Json × Place)
  | 0, _, _ => none
  | fuel + 1, done, p =>
    let p := p.skipBracketed
    match p.rest with
    | ',' :: _ => readItems? indent fuel done (p.advance 1)
    | ']' :: _ => some (.arr done.reverse, p.advance 1)
    | _ => none

/-- The members of a map up to its closing brace.  A key without a colon has the value null. -/
def readPairs? (indent : Nat) : (fuel : Nat) → List (String × Json) → Place →
    Option (Json × Place)
  | 0, _, _ => none
  | fuel + 1, done, p => do
    let p := p.skipBracketed
    match p.rest with
    | '}' :: _ => return (.obj done.reverse, p.advance 1)
    | _ =>
      let (key, v, q) ← readPair? indent fuel p
      let done := (key, v.getD .null) :: done
      let q := q.skipBracketed
      match q.rest with
      | ',' :: _ => readPairs? indent fuel done (q.advance 1)
      | '}' :: _ => return (.obj done.reverse, q.advance 1)
      | _ => none

end

/-! ## Values by indentation -/

mutual

/-- The value that stands here, at the column `indent` or further right, and the place of the next
part or before it.  After a key on the same line, where `inline` holds, there can be neither a map
nor a list by indentation. -/
def readIndented? : (fuel : Nat) → (indent : Nat) → (inline : Bool) → Place →
    Option (Json × Place)
  | 0, _, _, _ => none
  | fuel + 1, indent, inline, p =>
    if p.leaves indent then some (.null, p)
    else if p.atDash then if inline then none else readEntries? fuel p.column false [] p
    else
      match p.rest with
      | '[' :: _ | '{' :: _ => readBracketed? indent fuel p
      | _ => do
        let (s, q) ← Scalar.read? false indent p
        if (Place.afterColon? p q).isSome && !inline then readMembers? fuel p.column [] p
        else return (s.value, q)

/-- The entries of a list from the dash that stands here.  At the column of a key, where `hanging`
holds, the list ends before the next key. -/
def readEntries? : (fuel : Nat) → (column : Nat) → (hanging : Bool) → List Json → Place →
    Option (Json × Place)
  | 0, _, _, _, _ => none
  | fuel + 1, column, hanging, done, p => do
    let (v, q) ← readIndented? fuel (column + 1) false ((p.advance 1).skip false)
    let done := v :: done
    let q := q.skip true
    if q.leaves column then return (.arr done.reverse, q)
    else if q.column = column ∧ q.atDash then readEntries? fuel column hanging done q
    else if q.column = column ∧ hanging then return (.arr done.reverse, q)
    else none

/-- The members of a map from the key that stands here. -/
def readMembers? : (fuel : Nat) → (column : Nat) → List (String × Json) → Place →
    Option (Json × Place)
  | 0, _, _, _ => none
  | fuel + 1, column, done, p => do
    let (key, q) ← Scalar.read? false (column + 1) p
    let q := (← Place.afterColon? p q).skip true
    let (v, q) ←
      if q.column = column ∧ q.atDash ∧ !q.leaves column then readEntries? fuel column true [] q
      else readIndented? fuel (column + 1) (q.line = p.line) q
    let done := (key.text, v) :: done
    let q := q.skip true
    if q.leaves column then return (.obj done.reverse, q)
    else if q.column = column then readMembers? fuel column done q
    else none

end

/-! ## Documents -/

/-- Whether nothing comes here but marks of the end of the document. -/
def endsDocument : (fuel : Nat) → Place → Bool
  | 0, _ => false
  | fuel + 1, p =>
    let p := p.skip true
    p.atEnd || (p.atLineMark '.' && endsDocument fuel (p.advance 3))

/-- The value of a document, which may be missing.  Keys that come twice are still both there. -/
def document? (text : String) : Option (Option Json) := do
  let cs :=
    match text.toList with
    | '\ufeff' :: rest => rest
    | cs => cs
  if !cs.all isReadable then none
  else
    let start : Place := ⟨unifyBreaks cs, 0, 0⟩
    let fuel := 4 * cs.length + 8
    let p := start.skip false
    let marked := p.atLineMark '-'
    let q := if marked then (p.advance 3).skip true else p
    if q.atEnd || (marked && q.atMarker) then
      if endsDocument fuel q then return none else none
    else if q.atMarker then none
    else
      let (v, q) ← readIndented? fuel 0 (marked && q.line = p.line) q
      if endsDocument fuel q then return some v else none

/-! ## Dialects

Files are read in the part of the language above.  What loads settings from a file is stated for any
reader of documents. -/

/-- A reader of documents. -/
class Dialect where
  /-- The value of a text, which may be missing, if the text is a document. -/
  value? : String → Option (Option Json)

/-- The reader of this file, for where no other is given. -/
instance Dialect.standard : Dialect where
  value? := document?

end StepUp.Yaml
