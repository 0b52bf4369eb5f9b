import StepUp.Proofs.Regex.Extension

/-!
# Escapes and numbers in a continued text

What a backslash begins, and the bounds of a counted repetition, are read the same with more text
after them (`extensible_readEscape`, `extensible_readCount`).

One escape is no plain case.  After `\b` an opening brace may begin a name, and at the end of the
text that is a fault; but before a closing bracket it is the start of a counted repetition, which
is left to be read.  So `readEscape` can leave more than a part of the continuation, and `Stuck`
says that this is a repetition that nobody can read.
-/

namespace StepUp.Regex

variable {s : List Char}

/-! ## Hexadecimal numbers -/

theorem readBracedHex_succ_fuel (verbose : Bool) (number : Option Nat) {fuel : Nat}
    {cs : List Char} (h : cs.length < fuel) :
    readBracedHex verbose number (fuel + 1) cs = readBracedHex verbose number fuel cs := by
  induction fuel generalizing number cs with
  | zero => exact absurd h (Nat.not_lt_zero _)
  | succ fuel ih =>
      cases cs with
      | nil => rfl
      | cons c rest =>
          have hlen := length_skip_le verbose rest
          rw [List.length_cons] at h
          simp only [readBracedHex, ih _ (show (skip verbose rest).length < fuel by omega)]

/-- The character of a number that has been read. -/
def hexLiteral (isByte : Bool) (n : Nat) : Reader Literal := fun cs =>
  match charOf? n with
  | some c => .ok ({ char := c, isByte }, cs)
  | none => .error .badHex

/-- A number in braces or with as many digits as its letter asks for. -/
def readHexBody (verbose : Bool) (letter : Char) : Reader Literal
  | '{' :: rest =>
    readBracedHex verbose none (rest.length + 1) (skip verbose rest) >>= fun x =>
      hexLiteral false x.1 x.2
  | rest =>
    readFixedHex verbose 0 (if letter = 'x' then 2 else if letter = 'u' then 4 else 8) rest >>=
      fun x => hexLiteral (letter = 'x') x.1 x.2

theorem readHex_eq (verbose : Bool) (letter : Char) (cs : List Char) :
    readHex verbose letter cs = skipTo verbose .badHex cs >>= readHexBody verbose letter := by
  unfold readHex
  congr 1
  funext rest
  unfold readHexBody
  split <;> simp only [pure_bind] <;> rfl

section

variable (hs : Closing s) (verbose : Bool)
include hs

theorem extensible_readFixedHex (number digits : Nat) :
    Extensible s (Within s.tail) (readFixedHex verbose number digits) := by
  induction digits generalizing number with
  | zero => exact .pure number
  | succ digits ih =>
      refine .cases_fail hs (fun _ _ => id) ⟨_, rfl⟩ fun c => ?_
      simp only [readFixedHex]
      cases hexDigit? c with
      | none => exact .fail _
      | some d => exact (ih _).skip hs verbose

theorem extensible_readBracedHex (number : Option Nat) (fuel : Nat) :
    Extensible s (Within s.tail) (readBracedHex verbose number fuel) := by
  induction fuel generalizing number with
  | zero => exact .fail _
  | succ fuel ih =>
      refine .cases_fail hs (fun _ _ => id) ⟨_, rfl⟩ fun c => ?_
      simp only [readBracedHex]
      split
      · cases number with
        | none => exact .fail _
        | some n => exact (Extensible.pure n).skip hs verbose
      · cases hexDigit? c with
        | none => exact .fail _
        | some d => exact (ih _).skip hs verbose

theorem extensible_readHex (letter : Char) :
    Extensible s (Within s.tail) (readHex verbose letter) := by
  have hliteral (isByte : Bool) (n : Nat) :
      Extensible s (Within s.tail) (hexLiteral isByte n) := by
    unfold hexLiteral
    cases charOf? n with
    | none => exact .fail _
    | some c => exact .pure _
  have hbraced := (Extensible.of_fuel 1
    (fun fuel => (extensible_readBracedHex hs verbose none fuel).skip hs verbose)
    fun {fuel cs} h => readBracedHex_succ_fuel verbose none
      (Nat.lt_of_le_of_lt (length_skip_le verbose cs) h)).bind_within (hliteral false)
  obtain ⟨n, hn⟩ :
      ∃ n, (if letter = 'x' then 2 else if letter = 'u' then 4 else 8) = n + 1 := by
    split
    · exact ⟨1, rfl⟩
    · split
      · exact ⟨3, rfl⟩
      · exact ⟨7, rfl⟩
  have hfixed := (extensible_readFixedHex hs verbose 0 (n + 1)).bind_within
    (hliteral (letter = 'x'))
  have hbody : Extensible s (Within s.tail) (readHexBody verbose letter) := by
    rw [← hn] at hfixed
    exact .of_head hs '{' (by decide) hbraced hfixed (fun _ => rfl) rfl
      fun c cs hc => by simp [readHexBody, hc]
  have hnil : ∃ e, readHexBody verbose letter [] = .error e := by
    simp only [readHexBody, hn, readFixedHex]
    exact ⟨_, rfl⟩
  exact funext (readHex_eq verbose letter) ▸ hbody.skipTo_fail hs hnil verbose .badHex

end

/-! ## Decimal numbers -/

theorem readDigits_cons (verbose : Bool) (number : Option Nat) (fuel : Nat) (c : Char)
    (rest : List Char) :
    readDigits verbose number (fuel + 1) (c :: rest) =
      if c.isDigit then
        readDigits verbose (some (number.getD 0 * 10 + (c.toNat - '0'.toNat))) fuel
          (skip verbose rest)
      else (number, c :: rest) :=
  rfl

theorem readDigits_succ_fuel (verbose : Bool) (number : Option Nat) {fuel : Nat} {cs : List Char}
    (h : cs.length ≤ fuel) :
    readDigits verbose number (fuel + 1) cs = readDigits verbose number fuel cs := by
  induction fuel generalizing number cs with
  | zero =>
      obtain rfl : cs = [] := List.length_eq_zero_iff.1 (Nat.le_zero.1 h)
      rfl
  | succ fuel ih =>
      cases cs with
      | nil => rfl
      | cons c rest =>
          have hlen := length_skip_le verbose rest
          rw [List.length_cons] at h
          rw [readDigits_cons, readDigits_cons, ih _ (by omega)]

/-- What is left after the digits of a number, and whether the number is small enough. -/
def decimalEnd (verbose : Bool) (number : Option Nat) : Reader (Option Nat) := fun rest =>
  match number with
  | some n =>
    if n < Nat.pow 2 32 then .ok (number, skip verbose (rest.dropWhile Text.isBlank))
    else .error .badCount
  | none => .ok (none, skip verbose (rest.dropWhile Text.isBlank))

section

variable (hs : Closing s) (verbose : Bool)
include hs

theorem extensible_readDigits (number : Option Nat) (fuel : Nat) :
    Extensible s (Within s.tail) fun cs => .ok (readDigits verbose number fuel cs) := by
  induction fuel generalizing number with
  | zero => exact .pure number
  | succ fuel ih =>
      refine .of_first hs (·.isDigit) (by decide) (fun c hc => ?_) (.pure number) rfl
        fun c cs hc => by simp [readDigits, hc]
      simp only [readDigits, hc, if_true]
      exact (ih _).skip hs verbose

theorem extensible_readDecimal : Extensible s (Within s.tail) (readDecimal verbose) := by
  have hdigits : Extensible s (Within s.tail) fun cs =>
      .ok (readDigits verbose none cs.length (cs.dropWhile Text.isBlank)) :=
    .of_fuel 0 (fun fuel => (extensible_readDigits hs verbose none fuel).dropWhile_isBlank hs)
      fun {fuel cs} h => by
        rw [readDigits_succ_fuel]
        exact (List.dropWhile_suffix _).length_le.trans h
  have hend (number : Option Nat) : Extensible s (Within s.tail) (decimalEnd verbose number) := by
    have hskip : Extensible s (Within s.tail) fun cs =>
        .ok (number, skip verbose (cs.dropWhile Text.isBlank)) :=
      ((Extensible.pure number).skip hs verbose).dropWhile_isBlank hs
    cases number with
    | none => exact hskip
    | some n => exact .ite hskip (.fail .badCount)
  exact hdigits.bind_within hend

end

/-! ## Counted repetitions -/

/-- The second bound of a counted repetition, after the comma: none, or a number. -/
def secondBound (verbose : Bool) (n : Nat) : Reader (Nat × Option Nat)
  | '}' :: rest => .ok ((n, none), '}' :: rest)
  | cs => readDecimal verbose cs >>= fun second =>
    match second.1 with
    | some m => .ok ((n, some m), second.2)
    | none => .error .badCount

/-- The bounds of a counted repetition, after the first number. -/
def boundsFrom (verbose : Bool) (n : Nat) : Reader (Nat × Option Nat)
  | ',' :: rest => skipTo verbose .badCount rest >>= secondBound verbose n
  | cs => .ok ((n, some n), cs)

/-- The brace at the end of a counted repetition. -/
def boundsEnd (verbose : Bool) (bounds : Nat × Option Nat) : Reader (Nat × Option Nat)
  | '}' :: rest =>
    if bounds.2.all (bounds.1 ≤ ·) then .ok (bounds, skipLazy (skip verbose rest))
    else .error .badCount
  | _ => .error .badCount

/-- The bounds of a counted repetition, if there is a first number. -/
def countAfter (verbose : Bool) : Option Nat → Reader (Nat × Option Nat)
  | none, _ => .error .badCount
  | some n, cs => boundsFrom verbose n cs >>= fun bounds => boundsEnd verbose bounds.1 bounds.2

theorem readCount_eq (verbose : Bool) (cs : List Char) :
    readCount verbose cs = skipTo verbose .badCount cs >>= fun cs =>
      readDecimal verbose cs >>= fun first => countAfter verbose first.1 first.2 := by
  unfold readCount
  congr 1
  funext cs
  congr 1
  funext ⟨first, cs⟩
  rcases first with _ | n
  · rfl
  · change _ = boundsFrom verbose n cs >>= fun bounds => boundsEnd verbose bounds.1 bounds.2
    by_cases hcs : ∃ rest, cs = ',' :: rest
    · obtain ⟨rest, rfl⟩ := hcs
      simp only [boundsFrom, bind_assoc]
      congr 1
      funext rest
      unfold secondBound
      split
      · rfl
      · simp only [bind_assoc]
        congr 1
        funext ⟨second, cs⟩
        cases second <;> rfl
    · have hbounds : boundsFrom verbose n cs = .ok ((n, some n), cs) := by
        unfold boundsFrom
        split
        · exact absurd ⟨_, rfl⟩ hcs
        · rfl
      rw [hbounds]
      dsimp only
      split
      next rest _ => exact absurd ⟨rest, rfl⟩ hcs
      next heq _ => cases heq; rfl
      next heq => cases heq

theorem skipLazy_append (hs : Closing s) (cs : List Char) :
    skipLazy (cs ++ s) = skipLazy cs ++ s := by
  obtain ⟨rest, rfl, _⟩ := hs
  cases cs with
  | nil => rfl
  | cons c cs => by_cases hc : c = '?' <;> simp [skipLazy, hc]

theorem skipLazy_suffix (cs : List Char) : skipLazy cs <:+ cs := by
  unfold skipLazy
  split
  · exact List.suffix_cons _ _
  · exact List.suffix_rfl

section

variable (hs : Closing s) (verbose : Bool)
include hs

theorem Extensible.skipLazy {α : Type} {P : α → List Char → Prop} {F : Reader α}
    (hF : Extensible s P F) : Extensible s P fun cs => F (Regex.skipLazy cs) where
  suffix h := (hF.suffix h).trans (skipLazy_suffix _)
  extends_append cs := by
    rw [skipLazy_append hs]
    exact hF.extends_suffix (skipLazy_suffix cs)

omit hs in
theorem readDecimal_nil : readDecimal verbose [] = .ok (none, []) := by
  cases verbose <;> rfl

/-- No number is read from a bracket on. -/
theorem readDecimal_closing : readDecimal verbose s = .ok (none, s) := by
  have hskip := skip_closing hs verbose
  obtain ⟨rest, rfl, _⟩ := hs
  simpa [readDecimal, readDigits, Text.isBlank] using hskip

theorem extensible_secondBound (n : Nat) :
    Extensible s (Within s.tail) (secondBound verbose n) := by
  have hnumber := (extensible_readDecimal hs verbose).bind_within fun second =>
    show Extensible s (Within s.tail) fun cs => match second with
      | some m => .ok ((n, some m), cs)
      | none => .error .badCount by
    cases second with
    | none => exact .fail _
    | some m => exact .pure (n, some m)
  refine .of_where (p := (·.head? = some '}')) (hs.head?_append (by decide)) (.pure (n, none))
    hnumber
    (fun cs hcs => ?_) fun cs hcs => ?_
  · obtain ⟨rest, rfl⟩ := List.head?_eq_some_iff.1 hcs
    rfl
  · cases cs with
    | nil => rfl
    | cons c cs => simp [secondBound, show c ≠ '}' by simpa using hcs]

theorem extensible_countAfter (first : Option Nat) :
    Extensible s (Within s.tail) (countAfter verbose first) := by
  cases first with
  | none => exact .fail _
  | some n =>
      have hsecond := extensible_secondBound hs verbose n
      have hbounds : Extensible s (Within s.tail) (boundsFrom verbose n) := by
        have hnil : secondBound verbose n [] = .error .badCount := by
          rw [secondBound, readDecimal_nil]
          · rfl
          · simp
        exact .of_head hs ',' (by decide) (hsecond.skipTo_fail hs ⟨_, hnil⟩ verbose .badCount)
          (.pure (n, some n)) (fun _ => rfl) rfl fun c cs hc => by simp [boundsFrom, hc]
      refine hbounds.bind_within fun bounds => ?_
      have hlazy : Extensible s (Within s.tail)
          fun cs => .ok (bounds, skipLazy (skip verbose cs)) :=
        ((Extensible.pure bounds).skipLazy hs).skip hs verbose
      exact .of_head hs '}' (by decide) (.ite hlazy (.fail .badCount)) (.fail .badCount)
        (fun _ => rfl) rfl fun c cs hc => by simp [boundsEnd, hc]

theorem extensible_readCount : Extensible s (Within s.tail) (readCount verbose) := by
  have hbody := (extensible_readDecimal hs verbose).bind_within (extensible_countAfter hs verbose)
  refine funext (readCount_eq verbose) ▸ hbody.skipTo_fail hs ⟨.badCount, ?_⟩ verbose .badCount
  rw [readDecimal_nil]
  rfl

end

/-! ## Boundaries of words -/

theorem readWordName_succ_fuel (verbose : Bool) (done : List Char) {fuel : Nat} {cs : List Char}
    (h : cs.length < fuel) :
    readWordName verbose done (fuel + 1) cs = readWordName verbose done fuel cs := by
  induction fuel generalizing done cs with
  | zero => exact absurd h (Nat.not_lt_zero _)
  | succ fuel ih =>
      cases cs with
      | nil => rfl
      | cons c rest =>
          have hlen := length_skip_le verbose rest
          rw [List.length_cons] at h
          simp only [readWordName, ih _ (show (skip verbose rest).length < fuel by omega)]

/-- What is left after a boundary of words whose brace turned out to begin no name: a counted
repetition before the continuation. -/
def Unread (s : List Char) (verbose : Bool) (side : WordSide) (r : List Char) : Prop :=
  side = .boundary ∧ ∃ inner, r = '{' :: inner ∧ skip verbose inner = s

/-- What can be left of the continuation, or before it, after a boundary of words. -/
def AfterBoundary (s : List Char) (verbose : Bool) (side : WordSide) (r : List Char) : Prop :=
  r <:+ s.tail ∨ Unread s verbose side r

/-- The side that a name in braces asks for. -/
def namedSide (verbose : Bool) : Reader WordSide := fun cs =>
  readWordName verbose [] (cs.length + 1) cs >>= fun name =>
    match wordSide? name.1 with
    | some side => .ok (side, name.2)
    | none => .error .badWordBoundary

theorem readWordBoundary_brace (verbose : Bool) (inner : List Char) :
    readWordBoundary verbose ('{' :: inner) =
      match skip verbose inner with
      | [] => .error .badWordBoundary
      | c :: rest =>
        if c.isAlpha || c == '-' then namedSide verbose (c :: rest)
        else .ok (.boundary, '{' :: inner) := by
  simp only [readWordBoundary, skipTo]
  cases skip verbose inner <;> rfl

/-- A counted repetition that a bracket follows at once cannot be read. -/
theorem Unread.readCount_fails (hs : Closing s) {verbose : Bool} {side : WordSide} {r : List Char}
    (h : Unread s verbose side r) :
    ∃ inner, r = '{' :: inner ∧ readCount verbose inner = .error .badCount := by
  obtain ⟨_, inner, rfl, hinner⟩ := h
  refine ⟨inner, rfl, ?_⟩
  have hskip : skipTo verbose .badCount inner = .ok s := by
    unfold skipTo
    rw [hinner]
    obtain ⟨rest, rfl, _⟩ := hs
    rfl
  rw [readCount_eq, hskip]
  change readDecimal verbose s >>= _ = _
  rw [readDecimal_closing hs]
  rfl

section

variable (hs : Closing s) (verbose : Bool)
include hs

theorem extensible_readWordName (done : List Char) (fuel : Nat) :
    Extensible s (Within s.tail) (readWordName verbose done fuel) := by
  induction fuel generalizing done with
  | zero => exact .fail _
  | succ fuel ih =>
      refine .cases_fail hs (fun _ _ => id) ⟨_, rfl⟩ fun c => ?_
      simp only [readWordName]
      exact .ite ((ih _).skip hs verbose) (.ite (.pure _) (.fail _))

theorem extensible_namedSide : Extensible s (Within s.tail) (namedSide verbose) := by
  have hname := Extensible.of_fuel 1 (extensible_readWordName hs verbose [])
    (readWordName_succ_fuel verbose [])
  refine hname.bind_within (G := fun name cs => match wordSide? name with
    | some side => .ok (side, cs)
    | none => .error .badWordBoundary) fun name => ?_
  cases wordSide? name with
  | none => exact .fail _
  | some side => exact .pure side

theorem extensible_readWordBoundary :
    Extensible s (AfterBoundary s verbose) (readWordBoundary verbose) := by
  have hname := extensible_namedSide hs verbose
  have hplain {cs : List Char} (h : cs.head? ≠ some '{') :
      readWordBoundary verbose cs = .ok (.boundary, cs) := by
    cases cs with
    | nil => rfl
    | cons c cs => simp [readWordBoundary, show c ≠ '{' by simpa using h]
  constructor
  · intro cs side r h
    by_cases hcs : cs.head? = some '{'
    · obtain ⟨inner, rfl⟩ := List.head?_eq_some_iff.1 hcs
      have hinner := skip_suffix verbose inner
      rw [readWordBoundary_brace] at h
      split at h
      · cases h
      next heq =>
        rw [heq] at hinner
        split at h
        · exact ((hname.suffix h).trans hinner).trans (List.suffix_cons _ _)
        · cases h; exact List.suffix_rfl
    · rw [hplain hcs] at h
      cases h
      exact List.suffix_rfl
  · intro cs
    by_cases hcs : cs.head? = some '{'
    · obtain ⟨inner, rfl⟩ := List.head?_eq_some_iff.1 hcs
      rw [List.cons_append, readWordBoundary_brace, readWordBoundary_brace]
      rcases skip_append hs verbose inner with heq | ⟨_, hnil, heq⟩
      · rw [heq]
        cases hinner : skip verbose inner with
        | nil =>
            -- the text ends before the name, and the bracket after it begins none
            rw [hinner, List.nil_append] at heq
            obtain ⟨rest, rfl, _⟩ := id hs
            intro side r hy
            cases hy
            exact .inr ⟨rfl, _, rfl, heq⟩
        | cons c rest =>
            by_cases hc : (c.isAlpha || c == '-') = true
            · simp only [List.cons_append, hc, if_true]
              have hrest : c :: rest <:+ inner := hinner ▸ skip_suffix verbose inner
              exact (hname.extends_suffix hrest).mono (fun _ _ => .inl) (List.mem_cons_of_mem _)
            · simp only [List.cons_append, hc]
              exact .ok _ ('{' :: inner)
      · rw [heq, hnil]
        exact .error _ _
    · rw [hplain hcs, hplain fun h => hcs ((hs.head?_append (by decide) cs).1 h)]
      exact .ok _ cs

end

/-! ## Properties -/

theorem readPropertyName_succ_fuel (verbose : Bool) (done : List Char) {fuel : Nat}
    {cs : List Char} (h : cs.length < fuel) :
    readPropertyName verbose done (fuel + 1) cs = readPropertyName verbose done fuel cs := by
  induction fuel generalizing done cs with
  | zero => exact absurd h (Nat.not_lt_zero _)
  | succ fuel ih =>
      have hlen := length_skip_le verbose cs
      rw [readPropertyName, readPropertyName]
      split
      · rfl
      · rfl
      next c rest _ heq =>
        rw [heq, List.length_cons] at hlen
        exact ih _ (by omega)

/-- The name of a property in braces, from a character that is no white space. -/
def propertyNameFrom (verbose : Bool) (done : List Char) (fuel : Nat) : Reader String
  | [] => .error .badEscape
  | '}' :: rest => .ok (String.ofList done.reverse, rest)
  | c :: rest => readPropertyName verbose (c :: done) fuel rest

/-- A property, from the brace or the letter that names it. -/
def propertyFrom (verbose negated : Bool) : Reader SetTree
  | '{' :: rest =>
    readPropertyName verbose [] (rest.length + 1) rest >>= fun x => .ok (queryOf x.1 negated, x.2)
  | c :: rest =>
    if c = '\\' then .error .badEscape
    else .ok (.unicode (.name c.toString) negated, skip verbose rest)
  | [] => .error .badEscape

section

variable (hs : Closing s) (verbose : Bool)
include hs

theorem extensible_readPropertyName (done : List Char) (fuel : Nat) :
    Extensible s (Within s.tail) (readPropertyName verbose done fuel) := by
  induction fuel generalizing done with
  | zero => exact .fail _
  | succ fuel ih =>
      have hbody : Extensible s (Within s.tail) (propertyNameFrom verbose done fuel) := by
        refine .cases_fail hs (fun _ _ => id) ⟨_, rfl⟩ fun c => ?_
        by_cases hc : c = '}'
        · subst hc
          exact .pure _
        · simpa [propertyNameFrom, hc] using ih (c :: done)
      exact hbody.skip hs verbose

theorem extensible_readProperty (negated : Bool) :
    Extensible s (Within s.tail) (readProperty verbose negated) := by
  have hname := (Extensible.of_fuel 1 (extensible_readPropertyName hs verbose [])
    (readPropertyName_succ_fuel verbose [])).bind_within (G := fun name cs =>
      .ok (queryOf name negated, cs)) fun name => .pure _
  have hbody : Extensible s (Within s.tail) (propertyFrom verbose negated) := by
    refine .cases_fail hs (fun _ _ => id) ⟨_, rfl⟩ fun c => ?_
    by_cases hc : c = '{'
    · subst hc
      exact hname
    · simpa [propertyFrom, hc] using .ite (.fail _) ((Extensible.pure _).skip hs verbose)
  exact hbody.skipTo_fail hs ⟨_, rfl⟩ verbose .badEscape

/-! ## Escapes -/

/-- What can be left of the continuation, or before it, after an escape. -/
def AfterEscape (s : List Char) (verbose : Bool) (e : Escape) (r : List Char) : Prop :=
  r <:+ s.tail ∨ ∃ side, e = .assertion (.word side) ∧ Unread s verbose side r

theorem extensible_readEscape :
    Extensible s (AfterEscape s verbose) (readEscape verbose) := by
  have hinside {F : Reader Escape} (h : Extensible s (Within s.tail) F) :
      Extensible s (AfterEscape s verbose) F :=
    h.mono fun _ _ => .inl
  have hhex (letter : Char) := hinside <| (extensible_readHex hs verbose letter).bind_within
    (G := fun l cs => .ok (.literal l, cs)) fun _ => .pure _
  have hproperty (negated : Bool) := hinside <|
    (extensible_readProperty hs verbose negated).bind_within
      (G := fun t cs => .ok (.set t, cs)) fun _ => .pure _
  have hboundary : Extensible s (AfterEscape s verbose) fun cs =>
      readWordBoundary verbose cs >>= fun x => .ok (.assertion (.word x.1), x.2) := by
    refine (extensible_readWordBoundary hs verbose).bind
      (G := fun side cs => .ok (Escape.assertion (.word side), cs)) (fun _ => .pure _) ?_
    rintro side r e r' (hr | hr) he <;> cases he
    · exact .inl hr
    · exact .inr ⟨side, rfl, hr⟩
  have hother (c : Char) : Extensible s (AfterEscape s verbose) fun cs =>
      if isMeta c || isEscapable c then .ok (.literal { char := c }, cs) else .error .badEscape :=
    .ite (.pure _) (.fail _)
  refine .cases_fail hs (fun _ _ => .inl) ⟨_, rfl⟩ fun c => ?_
  simp only [readEscape]
  -- each letter leads to one of five forms
  split <;> first
    | exact .pure _
    | exact hhex _
    | exact hproperty _
    | exact hboundary
    | exact hother _

end

end StepUp.Regex
