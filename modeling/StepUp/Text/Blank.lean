/-!
# Blank text

The white space of Unicode, and what is left of a text when the white space at its ends is cut off.
Settings and request parameters that hold nothing else count as absent, and
`trim_eq_empty_iff` says that this is the same as having an empty trimmed form.
-/

namespace StepUp.Text

/-- The twenty-five characters with Unicode's `White_Space` property. -/
def isBlank (c : Char) : Bool :=
  let n := c.toNat
  (0x9 ≤ n && n ≤ 0xD) || n == 0x20 || n == 0x85 || n == 0xA0 || n == 0x1680 ||
    (0x2000 ≤ n && n ≤ 0x200A) || n == 0x2028 || n == 0x2029 || n == 0x202F || n == 0x205F ||
    n == 0x3000

/-- The text between its first and its last character that are not blank. -/
def trim (s : String) : String :=
  String.ofList ((s.toList.dropWhile isBlank).reverse.dropWhile isBlank).reverse

/-- A text of nothing but white space, the empty one included. -/
def blank (s : String) : Bool :=
  s.toList.all isBlank

/-- The text, if it holds anything but white space. -/
def nonblank? (s : String) : Option String :=
  if blank s then none else some s

/-- The trimmed text, if anything is left of it. -/
def trimmed? (s : String) : Option String :=
  let t := trim s
  if t.isEmpty then none else some t

/-! ## Trimming leaves nothing exactly of blank texts -/

private theorem dropWhile_eq_nil_iff (p : Char → Bool) (l : List Char) :
    l.dropWhile p = [] ↔ l.all p = true := by
  induction l with
  | nil => simp
  | cons c r ih => by_cases h : p c = true <;> simp [h, ih]

private theorem all_dropWhile (p : Char → Bool) (l : List Char) :
    (l.dropWhile p).all p = l.all p := by
  induction l with
  | nil => rfl
  | cons c r ih => by_cases h : p c = true <;> simp [h, ih]

theorem trim_eq_empty_iff (s : String) : trim s = "" ↔ blank s = true := by
  have h : trim s = "" ↔ ((s.toList.dropWhile isBlank).reverse.dropWhile isBlank).reverse = [] := by
    constructor
    · intro h
      have := congrArg String.toList h
      simpa [trim] using this
    · intro h
      simp [trim, h]
  rw [h, List.reverse_eq_nil_iff, dropWhile_eq_nil_iff, List.all_reverse, all_dropWhile, blank]

theorem trimmed?_of_blank {s : String} (h : blank s = true) : trimmed? s = none := by
  simp [trimmed?, (trim_eq_empty_iff s).2 h]

theorem trimmed?_of_not_blank {s : String} (h : blank s = false) :
    trimmed? s = some (trim s) := by
  have hne : trim s ≠ "" := fun hempty => by
    rw [(trim_eq_empty_iff s).1 hempty] at h
    cases h
  simp [trimmed?, hne]

end StepUp.Text
