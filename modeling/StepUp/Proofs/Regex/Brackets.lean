import StepUp.Proofs.Regex.Escape
import Mathlib.Data.List.TakeWhile

/-!
# Classes in a continued text

A class in brackets is read the same with more text after it (`extensible_readClass`).  Only a
closing bracket of its own ends a class, so what fails at the end of the text can go on into the
continuation, but the class is not complete before a part of that is taken.

`readClass` goes round a loop that every item, operator and inner class is a case of.  What one
round does is said once (`classStep`), and `readClass_succ_fuel` is the loop around it.
-/

namespace StepUp.Regex

open Outcome (bind_eq_ok)

variable {s : List Char}

/-- Of a last part of a text a shorter one is left, so a character of the text is taken. -/
theorem suffix_tail {r r' : List Char} (h : r' <:+ r) (hlt : r'.length < r.length)
    (hr : r <:+ s) : r' <:+ s.tail := by
  have hr' := h.trans hr
  have hle := hr.length_le
  cases s with
  | nil =>
      rw [List.length_nil] at hle
      omega
  | cons c s =>
      rcases List.suffix_cons_iff.1 hr' with rfl | hr'
      · omega
      · exact hr'

/-! ## Classes with a name -/

/-- What stands after the colon and the bracket that end a name. -/
def nameEnd? : List Char → Option (List Char)
  | ':' :: ']' :: rest => some rest
  | _ => none

/-- A class such as `[:alpha:]` from its name on. -/
def asciiNamed? (negated : Bool) (cs : List Char) : Option (SetTree × List Char) :=
  (nameEnd? (cs.dropWhile (· != ':'))).bind fun rest =>
    (AsciiClass.ofName? (String.ofList (cs.takeWhile (· != ':')))).map fun kind =>
      (.ascii kind negated, rest)

theorem readAsciiClass?_eq (cs : List Char) :
    readAsciiClass? cs =
      match cs with
      | ':' :: '^' :: rest => asciiNamed? true rest
      | ':' :: rest => asciiNamed? false rest
      | _ => none := by
  have hnamed (negated : Bool) (cs : List Char) : asciiNamed? negated cs =
      match cs.dropWhile (· != ':') with
      | ':' :: ']' :: rest =>
        (AsciiClass.ofName? (String.ofList (cs.takeWhile (· != ':')))).map fun kind =>
          (.ascii kind negated, rest)
      | _ => none := by
    unfold asciiNamed? nameEnd?
    split <;> rfl
  split
  next rest => exact (hnamed true rest).symm
  next rest hcaret =>
      rewrite [hnamed, readAsciiClass?]
      · rfl
      · exact hcaret
  next _ hcolon =>
      rw [readAsciiClass?]
      exact hcolon

section

variable (hs : Closing s)
include hs

theorem nameEnd?_append (cs : List Char) :
    nameEnd? (cs ++ s) = (nameEnd? cs).map (· ++ s) := by
  obtain ⟨last, rfl, _⟩ := hs
  match cs with
  | [] => simp [nameEnd?]
  | [c] => by_cases hc : c = ':' <;> simp [nameEnd?, hc]
  | c :: d :: cs =>
      by_cases hc : c = ':' <;> by_cases hd : d = ']' <;> simp [nameEnd?, hc, hd]

theorem asciiNamed?_append (negated : Bool) (cs : List Char) :
    asciiNamed? negated (cs ++ s) =
      (asciiNamed? negated cs).map fun x => (x.1, x.2 ++ s) := by
  have hend : s.dropWhile (· != ':') = [] := by
    rw [List.dropWhile_eq_nil_iff]
    intro c hc
    have hne : c ≠ ':' := fun heq => hs.not_mem_colon (heq ▸ hc)
    simpa using hne
  unfold asciiNamed?
  rw [List.dropWhile_append, List.takeWhile_append]
  cases hdrop : cs.dropWhile (· != ':') with
  | nil => simp [hend, nameEnd?]
  | cons c rest =>
      -- the name ends before the text does
      have hlt : (cs.takeWhile (· != ':')).length ≠ cs.length := by
        have := congrArg List.length (List.takeWhile_append_dropWhile (p := (· != ':')) (l := cs))
        rw [hdrop] at this
        simp only [List.length_append, List.length_cons] at this
        omega
      simp only [hlt, if_false, List.isEmpty_cons, Bool.false_eq_true, nameEnd?_append hs,
        Option.bind_map, Option.map_bind, Function.comp_def, Option.map_map]

theorem readAsciiClass?_append (cs : List Char) :
    readAsciiClass? (cs ++ s) = (readAsciiClass? cs).map fun x => (x.1, x.2 ++ s) := by
  have happend := asciiNamed?_append hs
  rw [readAsciiClass?_eq, readAsciiClass?_eq]
  obtain ⟨last, rfl, _⟩ := hs
  match cs with
  | [] => simp
  | [c] =>
      have hempty := happend false []
      by_cases hc : c = ':' <;> simp_all
  | c :: d :: cs =>
      by_cases hc : c = ':' <;> by_cases hd : d = '^' <;> simp [hc, hd, ← happend]

end

theorem nameEnd?_suffix {cs r : List Char} (h : nameEnd? cs = some r) : r <:+ cs := by
  unfold nameEnd? at h
  split at h
  · cases h
    exact (List.suffix_cons _ _).trans (List.suffix_cons _ _)
  · cases h

theorem asciiNamed?_suffix {negated : Bool} {cs r : List Char} {t : SetTree}
    (h : asciiNamed? negated cs = some (t, r)) : r <:+ cs := by
  unfold asciiNamed? at h
  simp only [Option.bind_eq_some_iff, Option.map_eq_some_iff, Prod.mk.injEq] at h
  obtain ⟨rest, hrest, kind, _, _, rfl⟩ := h
  exact (nameEnd?_suffix hrest).trans (List.dropWhile_suffix _)

theorem readAsciiClass?_suffix {cs r : List Char} {t : SetTree}
    (h : readAsciiClass? cs = some (t, r)) : r <:+ cs := by
  rw [readAsciiClass?_eq] at h
  split at h
  · exact (asciiNamed?_suffix h).trans ((List.suffix_cons _ _).trans (List.suffix_cons _ _))
  · exact (asciiNamed?_suffix h).trans (List.suffix_cons _ _)
  · cases h

/-! ## Items and ranges -/

/-- What `peek?` looks at. -/
def lookAhead (cs : List Char) : List Char :=
  match cs.dropWhile Text.isBlank with
  | '#' :: rest => rest.dropWhile Text.isBlank
  | rest => rest

theorem peek?_eq (verbose : Bool) (cs : List Char) :
    peek? verbose cs = if verbose then ((lookAhead cs).head?).or cs.head? else cs.head? :=
  rfl

theorem lookAhead_append (hs : Closing s) (cs : List Char) :
    lookAhead (cs ++ s) = lookAhead cs ++ s := by
  unfold lookAhead
  rw [dropWhile_isBlank_append hs]
  cases cs.dropWhile Text.isBlank with
  | nil =>
      obtain ⟨rest, rfl, _⟩ := hs
      rfl
  | cons c rest =>
      by_cases hc : c = '#'
      · subst hc
        exact dropWhile_isBlank_append hs rest
      · simp [hc]

theorem lookAhead_of_head? {c : Char} (hblank : Text.isBlank c = false) (hc : c ≠ '#')
    {cs : List Char} (h : cs.head? = some c) : lookAhead cs = cs := by
  obtain ⟨rest, rfl⟩ := List.head?_eq_some_iff.1 h
  simp [lookAhead, hblank, hc]

/-- The continuation does not change whether a character that matters comes next. -/
theorem peek?_append (hs : Closing s) (verbose : Bool) {c : Char} (hblank : Text.isBlank c = false)
    (hc : c ≠ '#') (hclose : c ≠ ')') (cs : List Char) :
    peek? verbose (cs ++ s) = some c ↔ peek? verbose cs = some c := by
  rw [peek?_eq, peek?_eq]
  cases verbose with
  | false => exact hs.head?_append hclose cs
  | true =>
      rw [if_pos rfl, if_pos rfl, lookAhead_append hs]
      have hhead := hs.head?_append hclose (lookAhead cs)
      cases hcs : lookAhead cs with
      | cons d rest => simp
      | nil =>
          -- a text of blanks and a number sign does not begin with this character
          have hne : cs.head? ≠ some c := by
            intro h
            rw [lookAhead_of_head? hblank hc h] at hcs
            subst hcs
            cases h
          obtain ⟨rest, rfl, _⟩ := hs
          simp [hne, Ne.symm hclose]

/-- An item that makes no range. -/
def singleItem : Escape → Reader SetTree
  | .literal l, rest => .ok (.literal l, rest)
  | .set t, rest => .ok (t, rest)
  | .assertion _, _ => .error .badClassItem

theorem singleItem_eq (first : Escape) (rest : List Char) : singleItem first rest =
    match first with
    | .literal l => .ok (.literal l, rest)
    | .set t => .ok (t, rest)
    | .assertion _ => .error .badClassItem := by
  cases first <;> rfl

/-- The range between two items. -/
def rangeTo : Escape → Escape → Reader SetTree
  | .literal a, .literal b, rest =>
    if a.char ≤ b.char then .ok (.range a b, rest) else .error .badRange
  | _, _, _ => .error .badRange

theorem rangeTo_eq (first last : Escape) (rest : List Char) : rangeTo first last rest =
    match first, last with
    | .literal a, .literal b =>
      if a.char ≤ b.char then .ok (.range a b, rest) else .error .badRange
    | _, _ => .error .badRange := by
  cases first <;> cases last <;> rfl

/-- A hyphen with an item after it makes a range, unless it may stand for itself. -/
def rangeFrom (verbose : Bool) (first : Escape) : Reader SetTree
  | '-' :: after =>
    if peek? verbose after = some ']' ∨ peek? verbose after = some '-' then
      singleItem first ('-' :: after)
    else skipTo verbose .unclosedClass after >>= fun after =>
      readItem verbose after >>= fun last => rangeTo first last.1 last.2
  | rest => singleItem first rest

theorem rangeFrom_of_ne {verbose : Bool} {first : Escape} {rest : List Char}
    (h : ∀ after, rest ≠ '-' :: after) : rangeFrom verbose first rest = singleItem first rest := by
  unfold rangeFrom
  split
  next after => exact absurd rfl (h after)
  next => rfl

theorem readRange_eq (verbose : Bool) (cs : List Char) :
    readRange verbose cs = readItem verbose cs >>= fun first =>
      skipTo verbose .unclosedClass first.2 >>= rangeFrom verbose first.1 := by
  unfold readRange
  congr 1
  funext ⟨first, rest⟩
  dsimp only
  congr 1
  funext rest
  split
  next after =>
    simp only [rangeFrom, singleItem_eq, rangeTo_eq]
    rfl
  next hrest =>
    rw [rangeFrom_of_ne hrest]
    exact (singleItem_eq first rest).symm

theorem rangeTo_assertion (first : Escape) (a : Assertion) (rest : List Char) :
    rangeTo first (.assertion a) rest = .error .badRange := by
  cases first <;> rfl

/-- An assertion begins no range, and is no item. -/
theorem rangeFrom_assertion (verbose : Bool) (a : Assertion) (rest : List Char) :
    ∃ e, rangeFrom verbose (.assertion a) rest = .error e := by
  unfold rangeFrom
  split
  next after =>
    split
    · exact ⟨_, rfl⟩
    · cases hskip : skipTo verbose .unclosedClass after with
      | error e => exact ⟨e, rfl⟩
      | ok after =>
          change ∃ e, readItem verbose after >>= _ = _
          cases readItem verbose after <;> exact ⟨_, rfl⟩
  next => exact ⟨_, rfl⟩

section

variable (hs : Closing s) (verbose : Bool)
include hs

theorem extensible_readItem : Extensible s (AfterEscape s verbose) (readItem verbose) := by
  refine .cases_fail hs (fun _ _ => .inl) ⟨_, rfl⟩ fun c => ?_
  by_cases hc : c = '\\'
  · subst hc
    exact extensible_readEscape hs verbose
  · simpa [readItem, hc] using .pure (Escape.literal { char := c })

omit hs in
theorem extensible_singleItem (first : Escape) : Extensible s (Within s) (singleItem first) := by
  cases first with
  | literal l => exact .pure _
  | set t => exact .pure _
  | assertion a => exact .fail _

omit hs in
theorem extensible_rangeTo (first last : Escape) :
    Extensible s (Within s) (rangeTo first last) := by
  match first, last with
  | .literal a, .literal b => exact .ite (.pure _) (.fail _)
  | .literal _, .set _ | .literal _, .assertion _ => exact .fail _
  | .set _, _ | .assertion _, _ => exact .fail _

/-- The item after a hyphen; a boundary of words is none, whatever is left after it. -/
theorem extensible_rangeEnd (first : Escape) :
    Extensible s (Within s) fun cs => skipTo verbose .unclosedClass cs >>= fun after =>
      readItem verbose after >>= fun last => rangeTo first last.1 last.2 := by
  refine Extensible.skipTo_within hs ?_ verbose .unclosedClass
  refine (extensible_readItem hs verbose).bind (extensible_rangeTo first) ?_
  rintro last r t r' (hr | ⟨side, rfl, _⟩) h
  · have hr' := (extensible_rangeTo (s := s) first last).suffix h
    exact (hr'.trans hr).trans (List.tail_suffix s)
  · rw [rangeTo_assertion] at h
    cases h

theorem extensible_rangeFrom (first : Escape) :
    Extensible s (Within s) (rangeFrom verbose first) := by
  have hstart : Extensible s (Within s) fun
      | '-' :: after => skipTo verbose .unclosedClass after >>= fun after =>
        readItem verbose after >>= fun last => rangeTo first last.1 last.2
      | _ => .error .badRange := by
    exact .of_head hs '-' (by decide) (extensible_rangeEnd hs verbose first) (.fail .badRange)
      (fun _ => rfl) rfl fun c cs hc => by simp [hc]
  -- a hyphen makes a range by what comes after it, and that may not be the continuation
  refine .of_where (p := fun cs => ∃ after, cs = '-' :: after ∧
    ¬(peek? verbose after = some ']' ∨ peek? verbose after = some '-')) (fun cs => ?_) hstart
    (extensible_singleItem first) ?_ fun cs hcs => ?_
  · have hpeek (after : List Char) :
        (peek? verbose (after ++ s) = some ']' ∨ peek? verbose (after ++ s) = some '-') ↔
          (peek? verbose after = some ']' ∨ peek? verbose after = some '-') := by
      rw [peek?_append hs verbose (c := ']') (by decide) (by decide) (by decide),
        peek?_append hs verbose (c := '-') (by decide) (by decide) (by decide)]
    cases cs with
    | nil =>
        obtain ⟨rest, rfl, _⟩ := hs
        simp
    | cons c cs =>
        simp only [List.cons_append, List.cons.injEq]
        constructor
        · rintro ⟨_, ⟨rfl, rfl⟩, h⟩
          exact ⟨cs, ⟨rfl, rfl⟩, fun hcs => h ((hpeek cs).2 hcs)⟩
        · rintro ⟨_, ⟨rfl, rfl⟩, h⟩
          exact ⟨_, ⟨rfl, rfl⟩, fun hcs => h ((hpeek _).1 hcs)⟩
  · rintro _ ⟨after, rfl, hafter⟩
    simp only [rangeFrom, hafter, if_false]
  · unfold rangeFrom
    split
    next after => rw [if_pos (by_contra fun h => hcs ⟨after, rfl, h⟩)]
    next => rfl

theorem extensible_readRange : Extensible s (Within s) (readRange verbose) := by
  have hfrom (first : Escape) :=
    (extensible_rangeFrom hs verbose first).skipTo_within hs verbose .unclosedClass
  refine funext (readRange_eq verbose) ▸ (extensible_readItem hs verbose).bind hfrom ?_
  rintro first r t r' (hr | ⟨side, rfl, hr⟩) h
  · exact (((hfrom first).suffix h).trans hr).trans (List.tail_suffix s)
  · cases hskip : skipTo verbose .unclosedClass r with
    | error e => rw [hskip] at h; cases h
    | ok after =>
        obtain ⟨e, he⟩ := rangeFrom_assertion verbose (.word side) after
        rw [hskip] at h
        change rangeFrom verbose _ after = _ at h
        rw [he] at h
        cases h

end

/-! ## The start of a class -/

theorem length_skipTo_le {verbose : Bool} {fault : Fault} {cs rest : List Char}
    (h : skipTo verbose fault cs = .ok rest) : rest.length ≤ cs.length := by
  have hskip := length_skip_le verbose cs
  unfold skipTo at h
  split at h
  · cases h
  · cases h
    exact hskip

theorem readHyphens_succ_fuel (verbose : Bool) (done : List SetTree) {fuel : Nat} {cs : List Char}
    (h : cs.length ≤ fuel) :
    readHyphens verbose done (fuel + 1) cs = readHyphens verbose done fuel cs := by
  induction fuel generalizing done cs with
  | zero =>
      obtain rfl : cs = [] := List.length_eq_zero_iff.1 (Nat.le_zero.1 h)
      rfl
  | succ fuel ih =>
      by_cases hcs : cs.head? = some '-'
      · obtain ⟨rest, rfl⟩ := List.head?_eq_some_iff.1 hcs
        rw [List.length_cons] at h
        change skipTo verbose .unclosedClass rest >>= _ = skipTo verbose .unclosedClass rest >>= _
        cases hrest : skipTo verbose .unclosedClass rest with
        | error e => rfl
        | ok after =>
            have hlen := length_skipTo_le hrest
            exact ih _ (by omega)
      · cases cs with
        | nil => rfl
        | cons c cs => simp [readHyphens, show c ≠ '-' by simpa using hcs]

/-- The sign after the opening bracket that negates a class. -/
def negation (verbose : Bool) : Reader Bool
  | '^' :: rest => skipTo verbose .unclosedClass rest >>= fun rest => .ok (true, rest)
  | cs => .ok (false, cs)

theorem negation_of_ne {verbose : Bool} {cs : List Char} (h : ∀ rest, cs ≠ '^' :: rest) :
    negation verbose cs = .ok (false, cs) := by
  unfold negation
  split
  next rest => exact absurd rfl (h rest)
  next => rfl

/-- A closing bracket at the start of a class stands for itself. -/
def startItems (verbose negated : Bool) : List SetTree → Reader (Bool × List SetTree)
  | [], ']' :: rest => skipTo verbose .unclosedClass rest >>= fun rest =>
    .ok ((negated, [.literal { char := ']' }]), rest)
  | items, cs => .ok ((negated, items), cs)

/-- The start of a class, with what is left set apart. -/
def classStart (verbose : Bool) : Reader (Bool × List SetTree) := fun cs =>
  skipTo verbose .unclosedClass cs >>= fun cs =>
    negation verbose cs >>= fun negated =>
      readHyphens verbose [] negated.2.length negated.2 >>= fun items =>
        startItems verbose negated.1 items.1 items.2

theorem readClassStart_eq (verbose : Bool) (cs : List Char) :
    readClassStart verbose cs =
      classStart verbose cs >>= fun x => .ok (x.1.1, x.1.2, x.2) := by
  have hitems (negated : Bool) (items : List SetTree) (cs : List Char) :
      (startItems verbose negated items cs >>= fun x => .ok (x.1.1, x.1.2, x.2)) =
        match items, cs with
        | [], ']' :: rest => do
          let after ← skipTo verbose .unclosedClass rest
          pure (negated, [.literal { char := ']' }], after)
        | _, _ => pure (negated, items, cs) := by
    split
    · simp only [startItems, bind_assoc]
      rfl
    next hne =>
      cases items with
      | cons item items => rfl
      | nil =>
          cases cs with
          | nil => rfl
          | cons c cs =>
              have hc : c ≠ ']' := fun hc => hne cs rfl (hc ▸ rfl)
              simp only [startItems]
              rfl
  unfold readClassStart classStart
  simp only [bind_assoc, hitems]
  congr 1
  funext cs
  by_cases hcs : ∃ rest, cs = '^' :: rest
  · obtain ⟨rest, rfl⟩ := hcs
    simp only [negation, bind_assoc]
    rfl
  · rw [negation_of_ne fun rest h => hcs ⟨rest, h⟩]
    split
    next rest => exact absurd ⟨rest, rfl⟩ hcs
    next => rfl

section

variable (hs : Closing s) (verbose : Bool)
include hs

theorem extensible_readHyphens (done : List SetTree) (fuel : Nat) :
    Extensible s (Within s) (readHyphens verbose done fuel) := by
  induction fuel generalizing done with
  | zero => exact .pure done
  | succ fuel ih =>
      exact .of_head hs '-' (by decide) ((ih _).skipTo_within hs verbose .unclosedClass)
        (.pure done) (fun _ => rfl) rfl fun c cs hc => by simp [readHyphens, hc]

theorem extensible_negation : Extensible s (Within s) (negation verbose) :=
  .of_head hs '^' (by decide)
    (Extensible.skipTo_within hs (.pure true) verbose .unclosedClass) (.pure false)
    (fun _ => rfl) rfl fun c cs hc => by simp [negation, hc]

theorem extensible_startItems (negated : Bool) (items : List SetTree) :
    Extensible s (Within s) (startItems verbose negated items) := by
  cases items with
  | cons item items => exact .pure _
  | nil =>
      exact .of_head hs ']' (by decide)
        (Extensible.skipTo_within hs (.pure _) verbose .unclosedClass) (.pure (negated, []))
        (fun _ => rfl) rfl fun c cs hc => by simp [startItems, hc]

theorem extensible_classStart : Extensible s (Within s) (classStart verbose) := by
  have hhyphens := Extensible.of_fuel 0 (extensible_readHyphens hs verbose [])
    (readHyphens_succ_fuel verbose [])
  have hafter (negated : Bool) := hhyphens.bind_within (extensible_startItems hs verbose negated)
  exact ((extensible_negation hs verbose).bind_within hafter).skipTo_within hs verbose _

end

/-! ## Classes -/

/-- An operator between sets, if the text begins with one. -/
def operator? : List Char → Option (SetOp × List Char)
  | '&' :: '&' :: rest => some (.intersection, rest)
  | '-' :: '-' :: rest => some (.difference, rest)
  | '~' :: '~' :: rest => some (.symmetricDifference, rest)
  | _ => none

/-- What one round of reading a class comes to. -/
inductive ClassStep where
  | done (t : SetTree)
  | next (left : Option (SetTree × SetOp)) (items : List SetTree)
  | enter (negated : Bool) (start : List SetTree)

variable (verbose negated : Bool) (left : Option (SetTree × SetOp)) (items : List SetTree)

/-- What an opening bracket begins in a class: a class with a name, or one within the class. -/
def classOpening : Reader ClassStep := fun cs =>
  (readAsciiClass? cs).elim
    (classStart verbose cs >>= fun x => .ok (.enter x.1.1 x.1.2, x.2))
    fun x => .ok (.next left (x.1 :: items), x.2)

/-- An operator or an item of a class. -/
def classItem : Reader ClassStep := fun cs =>
  (operator? cs).elim (readRange verbose cs >>= fun x => .ok (.next left (x.1 :: items), x.2))
    fun x => .ok (.next (some (pendingSet left items, x.1)) [], x.2)

/-- The end of a class, or what stands in it. -/
def classClosing : Reader ClassStep
  | ']' :: rest => .ok (.done (.bracketed negated (pendingSet left items)), rest)
  | cs => classItem verbose left items cs

/-- One round of reading a class, after white space. -/
def classTurn : Reader ClassStep
  | '[' :: rest => classOpening verbose left items rest
  | ']' :: rest => .ok (.done (.bracketed negated (pendingSet left items)), rest)
  | cs => classItem verbose left items cs

/-- One round of reading a class. -/
def classStep : Reader ClassStep := fun cs =>
  classTurn verbose negated left items (skip verbose cs)

/-- How a class goes on after a round.  An inner class is an item of the outer one. -/
def classRest (fuel : Nat) : ClassStep → Reader SetTree
  | .done t, cs => .ok (t, cs)
  | .next left items, cs => readClass verbose negated left items fuel cs
  | .enter inner start, cs =>
    readClass verbose inner none start fuel cs >>= fun x =>
      readClass verbose negated left (x.1 :: items) fuel x.2

theorem readClass_succ_fuel (fuel : Nat) (cs : List Char) :
    readClass verbose negated left items (fuel + 1) cs =
      classStep verbose negated left items cs >>= fun x =>
        classRest verbose negated left items fuel x.1 x.2 := by
  rw [readClass]
  unfold classStep
  split
  next heq => rw [heq]; rfl
  next rest heq =>
    rw [heq]
    simp only [classTurn, classOpening]
    cases readAsciiClass? rest with
    | some x => rfl
    | none =>
        simp only [readClassStart_eq, bind_assoc, Option.elim]
        rfl
  next heq => rw [heq]; rfl
  next heq => rw [heq]; rfl
  next heq => rw [heq]; rfl
  next heq => rw [heq]; rfl
  next hnil hopen hclose hand hminus htilde =>
    have hturn : classTurn verbose negated left items (skip verbose cs) =
        readRange verbose (skip verbose cs) >>= fun x => .ok (.next left (x.1 :: items), x.2) := by
      have hoperator : operator? (skip verbose cs) = none := by
        unfold operator?
        split
        next heq => exact absurd heq (hand _)
        next heq => exact absurd heq (hminus _)
        next heq => exact absurd heq (htilde _)
        next => rfl
      unfold classTurn
      split
      next heq => exact absurd heq (hopen _)
      next heq => exact absurd heq (hclose _)
      next => simp only [classItem, hoperator, Option.elim]
    rw [hturn]
    simp only [bind_assoc]
    rfl

/-- What can be left of the continuation after a round; it does not end the class. -/
def AfterRound (s : List Char) (step : ClassStep) (r : List Char) : Prop :=
  r <:+ s ∧ ∀ t, step ≠ .done t

theorem operator?_suffix {cs r : List Char} {op : SetOp} (h : operator? cs = some (op, r)) :
    r <:+ cs.tail := by
  unfold operator? at h
  split at h <;> cases h <;> exact List.suffix_cons _ _

theorem operator?_append (hs : Closing s) (cs : List Char) :
    operator? (cs ++ s) = (operator? cs).map fun x => (x.1, x.2 ++ s) := by
  obtain ⟨last, rfl, _⟩ := hs
  match cs with
  | [] => simp [operator?]
  | [c] => simp [operator?]
  | c :: d :: cs =>
      by_cases hcd : (c = '&' ∧ d = '&') ∨ (c = '-' ∧ d = '-') ∨ (c = '~' ∧ d = '~')
      · rcases hcd with ⟨rfl, rfl⟩ | ⟨rfl, rfl⟩ | ⟨rfl, rfl⟩ <;> rfl
      · have hnone (cs : List Char) : operator? (c :: d :: cs) = none := by
          unfold operator?
          split
          next heq => cases heq; exact absurd (.inl ⟨rfl, rfl⟩) hcd
          next heq => cases heq; exact absurd (.inr (.inl ⟨rfl, rfl⟩)) hcd
          next heq => cases heq; exact absurd (.inr (.inr ⟨rfl, rfl⟩)) hcd
          next => rfl
        rw [List.cons_append, List.cons_append, hnone, hnone]
        rfl

section

variable (hs : Closing s)
include hs

theorem extensible_classOpening :
    Extensible s (AfterRound s) (classOpening verbose left items) := by
  refine .of_option (f := fun item => ClassStep.next left (item :: items))
    (readAsciiClass?_append hs) readAsciiClass?_suffix ?_
  refine (extensible_classStart hs verbose).bind
    (G := fun x cs => .ok (ClassStep.enter x.1 x.2, cs)) (fun _ => .pure _) ?_
  rintro x r step r' hr h
  cases h
  exact ⟨hr, nofun⟩

theorem extensible_classItem : Extensible s (AfterRound s) (classItem verbose left items) := by
  refine .of_option (f := fun op => ClassStep.next (some (pendingSet left items, op)) [])
    (operator?_append hs) (fun h => (operator?_suffix h).trans (List.tail_suffix _)) ?_
  refine (extensible_readRange hs verbose).bind
    (G := fun item cs => .ok (ClassStep.next left (item :: items), cs)) (fun _ => .pure _) ?_
  rintro x r step r' hr h
  cases h
  exact ⟨hr, nofun⟩

theorem extensible_classStep :
    Extensible s (AfterRound s) (classStep verbose negated left items) := by
  have hclose : Extensible s (AfterRound s) (classClosing verbose negated left items) := by
    exact .of_head hs ']' (by decide) (.pure _) (extensible_classItem verbose left items hs)
      (fun _ => rfl) rfl fun c cs hc => by simp [classClosing, hc]
  have hturn : Extensible s (AfterRound s) (classTurn verbose negated left items) := by
    refine .of_head hs '[' (by decide) (extensible_classOpening verbose left items hs) hclose
      (fun _ => rfl) rfl fun c cs hc => ?_
    by_cases hc' : c = ']' <;> simp [classTurn, classClosing, hc, hc']
  exact hturn.skip hs verbose

end

/-! ## The loop -/

theorem readItem_length {cs r : List Char} {e : Escape} (h : readItem verbose cs = .ok (e, r)) :
    r.length < cs.length := by
  cases cs with
  | nil => cases h
  | cons c rest =>
      refine Nat.lt_succ_of_le (List.IsSuffix.length_le ?_)
      by_cases hc : c = '\\'
      · subst hc
        exact (extensible_readEscape closing_bracket verbose).suffix h
      · simp only [readItem] at h
        cases h
        exact List.suffix_rfl

theorem readRange_length {cs r : List Char} {t : SetTree} (h : readRange verbose cs = .ok (t, r)) :
    r.length < cs.length := by
  rw [readRange_eq] at h
  obtain ⟨⟨first, rest⟩, hfirst, h⟩ := bind_eq_ok.1 h
  obtain ⟨after, hafter, h⟩ := bind_eq_ok.1 h
  have hitem : rest.length < cs.length := readItem_length verbose hfirst
  have hskip : after.length ≤ rest.length := length_skipTo_le hafter
  have hrange := ((extensible_rangeFrom closing_bracket verbose first).suffix h).length_le
  omega

theorem classStep_length {cs r : List Char} {step : ClassStep}
    (h : classStep verbose negated left items cs = .ok (step, r)) : r.length < cs.length := by
  have hskip := length_skip_le verbose cs
  unfold classStep classTurn at h
  split at h
  next rest heq =>
    have := ((extensible_classOpening verbose left items closing_bracket).suffix h).length_le
    rw [heq, List.length_cons] at hskip
    omega
  next rest heq =>
    cases h
    rw [heq, List.length_cons] at hskip
    omega
  next =>
    unfold classItem at h
    cases hop : operator? (skip verbose cs) with
    | some x =>
        rw [hop] at h
        cases h
        have hlt := (operator?_suffix hop).length_le
        have : skip verbose cs ≠ [] := by
          rintro hnil
          rw [hnil] at hop
          cases hop
        have := List.length_pos_of_ne_nil this
        rw [List.length_tail] at hlt
        omega
    | none =>
        rw [hop] at h
        obtain ⟨x, hx, h⟩ := bind_eq_ok.1 h
        cases h
        have := readRange_length verbose hx
        omega

theorem readClass_length {negated : Bool} {left : Option (SetTree × SetOp)} {items : List SetTree}
    {fuel : Nat} {cs r : List Char} {t : SetTree}
    (h : readClass verbose negated left items fuel cs = .ok (t, r)) : r.length < cs.length := by
  induction fuel generalizing negated left items cs t r with
  | zero => cases h
  | succ fuel ih =>
      rw [readClass_succ_fuel] at h
      obtain ⟨⟨step, rest⟩, hstep, h⟩ := bind_eq_ok.1 h
      have hlen := classStep_length verbose negated left items hstep
      cases step with
      | done t =>
          cases h
          exact hlen
      | next left items => exact (ih h).trans hlen
      | enter inner start =>
          obtain ⟨⟨item, after⟩, hinner, h⟩ := bind_eq_ok.1 h
          exact ((ih h).trans (ih hinner)).trans hlen

theorem readClass_more_fuel {negated : Bool} {left : Option (SetTree × SetOp)}
    {items : List SetTree} {fuel : Nat} {cs : List Char} (h : cs.length < fuel) :
    readClass verbose negated left items (fuel + 1) cs =
      readClass verbose negated left items fuel cs := by
  induction fuel generalizing negated left items cs with
  | zero => exact absurd h (Nat.not_lt_zero _)
  | succ fuel ih =>
      rw [readClass_succ_fuel, readClass_succ_fuel]
      cases hstep : classStep verbose negated left items cs with
      | error e => rfl
      | ok x =>
          obtain ⟨step, rest⟩ := x
          have hlen := classStep_length verbose negated left items hstep
          have hrest : rest.length < fuel := by omega
          cases step with
          | done t => rfl
          | next left items => exact ih hrest
          | enter inner start =>
              change readClass verbose inner none start (fuel + 1) rest >>= _ =
                readClass verbose inner none start fuel rest >>= _
              rw [ih hrest]
              cases hinner : readClass verbose inner none start fuel rest with
              | error e => rfl
              | ok y =>
                  have hlen' := readClass_length verbose hinner
                  exact ih (by omega)

section

variable (hs : Closing s)
include hs

theorem extensible_readClass (fuel : Nat) :
    Extensible s (Within s.tail) (readClass verbose negated left items fuel) := by
  induction fuel generalizing negated left items with
  | zero => exact .fail _
  | succ fuel ih =>
      have hrest (step : ClassStep) :
          Extensible s (Within s.tail) (classRest verbose negated left items fuel step) := by
        cases step with
        | done t => exact .pure t
        | next left items => exact ih negated left items
        | enter inner start =>
            exact (ih inner none start).bind_within fun item => ih negated left (item :: items)
      refine funext (readClass_succ_fuel verbose negated left items fuel) ▸
        (extensible_classStep verbose negated left items hs).bind hrest ?_
      -- the class is not complete, so more than what the round has left is taken
      rintro step r t r' ⟨hr, hdone⟩ h
      have hlt : r'.length < r.length := by
        cases step with
        | done t => exact absurd rfl (hdone t)
        | next left items => exact readClass_length verbose h
        | enter inner start =>
            obtain ⟨x, hx, h⟩ := bind_eq_ok.1 h
            exact (readClass_length verbose h).trans (readClass_length verbose hx)
      exact suffix_tail ((hrest step).suffix h) hlt hr

end

end StepUp.Regex
