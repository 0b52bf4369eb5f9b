import StepUp.Proofs.Regex.Brackets

/-!
# Groups in a continued text

A whole pattern, and a group in it, is read the same with more text after it
(`extensible_readTree`).  A pattern that fails at its end can be read on into the continuation, but
the closing bracket there is then a part of what is read and closes nothing that the pattern has
left open.

As for classes, what one round of reading does is said once (`groupStep`), and
`readTree_succ_fuel` is the loop around it.
-/

namespace StepUp.Regex

open Outcome (bind_eq_ok)

variable {s : List Char}

/-! ## The start of a group -/

theorem readFlags_suffix {done changes : FlagChanges} {minus : Option Bool} {cs r : List Char}
    (h : readFlags done minus cs = .ok (changes, r)) :
    r <:+ cs ∧ ∃ c rest, r = c :: rest := by
  induction cs generalizing done minus with
  | nil => cases h
  | cons c rest ih =>
      unfold readFlags at h
      split at h
      · split at h
        · cases h
        · cases h
          exact ⟨List.suffix_rfl, c, rest, rfl⟩
      · split at h
        · split at h
          · cases h
          · exact ⟨(ih h).1.trans (List.suffix_cons c rest), (ih h).2⟩
        · split at h
          · cases h
          · split at h
            · cases h
            · exact ⟨(ih h).1.trans (List.suffix_cons c rest), (ih h).2⟩

theorem extensible_readFlags (done : FlagChanges) (minus : Option Bool) :
    Extensible s (Within s) (readFlags done minus) where
  suffix h := (readFlags_suffix h).1
  extends_append cs := by
    induction cs generalizing done minus with
    | nil => exact fun _ _ h => (readFlags_suffix h).1
    | cons c rest ih =>
        rw [List.cons_append]
        unfold readFlags
        split
        · split
          · exact .error _ _
          · exact .ok _ (c :: rest)
        · split
          · split
            · exact .error _ _
            · exact (ih _ _).mono (fun _ _ => id) (List.mem_cons_of_mem c)
          · cases flag? c with
            | none => exact .error _ _
            | some f =>
                dsimp only
                split
                · exact .error _ _
                · exact (ih _ _).mono (fun _ _ => id) (List.mem_cons_of_mem c)

theorem readGroupName_suffix {done : List Char} {name : String} {cs r : List Char}
    (h : readGroupName done cs = .ok (name, r)) : r <:+ cs.tail := by
  induction cs generalizing done with
  | nil => cases h
  | cons c rest ih =>
      unfold readGroupName at h
      split at h
      · split at h
        · cases h
        · cases h
          exact List.suffix_rfl
      · split at h
        · exact (ih h).trans (List.tail_suffix rest)
        · cases h

theorem extensible_readGroupName (done : List Char) :
    Extensible s (Within s.tail) (readGroupName done) where
  suffix h := (readGroupName_suffix h).trans (List.tail_suffix _)
  extends_append cs := by
    induction cs generalizing done with
    | nil => exact fun _ _ h => readGroupName_suffix h
    | cons c rest ih =>
        rw [List.cons_append]
        unfold readGroupName
        split
        · split
          · exact .error _ _
          · exact .ok _ rest
        · split
          · exact (ih _).mono (fun _ _ => id) (List.mem_cons_of_mem c)
          · exact .error _ _

/-- A group with a name, from the name on. -/
def namedStart : Reader GroupStart := fun cs =>
  readGroupName [] cs >>= fun x => .ok (.capture (some x.1), x.2)

/-- What ends the flags of a group. -/
def flagsEnd (changes : FlagChanges) : Reader GroupStart
  | [] => .error .badFlags
  | c :: rest =>
    if c = ')' then
      if changes.isEmpty then .error .nothingToRepeat else .ok (.flags changes, rest)
    else .ok (.group changes, rest)

/-- A group with flags, from the flags on. -/
def flaggedStart : Reader GroupStart := fun cs =>
  readFlags [] none cs >>= fun x => flagsEnd x.1 x.2

theorem flaggedStart_eq (rest : List Char) : flaggedStart rest = (do
    match ← readFlags [] none rest with
    | (changes, ')' :: rest) =>
      if changes.isEmpty then throw .nothingToRepeat else return (.flags changes, rest)
    | (changes, rest) => return (.group changes, rest.drop 1)) := by
  unfold flaggedStart
  cases hflags : readFlags [] none rest with
  | error e => rfl
  | ok x =>
      obtain ⟨changes, after⟩ := x
      obtain ⟨c, after, rfl⟩ := (readFlags_suffix hflags).2
      by_cases hc : c = ')'
      · subst hc
        rfl
      · simp only [bind, Except.bind, flagsEnd, hc, if_false]
        split
        next heq => cases heq; exact absurd rfl hc
        next heq => cases heq; rfl

/-- The start of a group after an angle bracket. -/
def angledStart : Reader GroupStart
  | '=' :: _ | '!' :: _ => .error .lookAround
  | rest => namedStart rest

/-- The start of a group after the question mark. -/
def markedStart : Reader GroupStart
  | '=' :: _ | '!' :: _ => .error .lookAround
  | '<' :: rest => angledStart rest
  | 'P' :: '<' :: rest => namedStart rest
  | rest => flaggedStart rest

theorem readGroupStart_eq (verbose : Bool) (cs : List Char) :
    readGroupStart verbose cs =
      match skip verbose cs with
      | '?' :: rest => markedStart rest
      | rest => .ok (.capture none, rest) := by
  unfold readGroupStart
  split
  next heq => rw [heq]; rfl
  next heq => rw [heq]; rfl
  next heq => rw [heq]; rfl
  next heq => rw [heq]; rfl
  next heq => rw [heq]; rfl
  next rest hne hne' heq =>
    simp only [heq, markedStart]
    unfold angledStart
    split
    next => exact absurd rfl (hne _)
    next => exact absurd rfl (hne' _)
    next => rfl
  next rest hne hne' _ _ hname hangle heq =>
    simp only [heq]
    unfold markedStart
    split
    next => exact absurd rfl (hne _)
    next => exact absurd rfl (hne' _)
    next => exact absurd rfl (hangle _)
    next => exact absurd rfl (hname _)
    next => exact (flaggedStart_eq rest).symm
  next hne =>
    dsimp only
    split
    next heq => exact absurd heq (hne _)
    next => rfl

section

variable (hs : Closing s)
include hs

omit hs in
theorem extensible_namedStart : Extensible s (Within s.tail) namedStart :=
  (extensible_readGroupName []).bind_within
    (G := fun name cs => .ok (GroupStart.capture (some name), cs)) fun _ => .pure _

theorem extensible_flaggedStart : Extensible s (Within s.tail) flaggedStart := by
  have hcons (changes : FlagChanges) (c : Char) :
      Extensible s (Within s.tail) fun cs => flagsEnd changes (c :: cs) :=
    .ite (.ite (.fail _) (.pure _)) (.pure _)
  have hend (changes : FlagChanges) : Extensible s (Within s.tail) (flagsEnd changes) :=
    .cases_fail hs (fun _ _ => id) ⟨_, rfl⟩ (hcons changes)
  refine (extensible_readFlags [] none).bind hend ?_
  rintro changes r start r' hr h
  cases r with
  | nil => cases h
  | cons c rest =>
      -- the flags end with a character that is taken
      have hlast : r' <:+ rest := (hcons changes c).suffix h
      exact suffix_tail (hlast.trans (List.suffix_cons c rest))
        (Nat.lt_succ_of_le hlast.length_le) hr

theorem extensible_markedStart : Extensible s (Within s.tail) markedStart := by
  have hangled : Extensible s (Within s.tail) angledStart := by
    refine .of_first hs (fun c => c = '=' ∨ c = '!') (by decide) ?_ extensible_namedStart rfl
      fun c cs hc => by simp [angledStart, not_or.1 hc]
    rintro c (rfl | rfl) <;> exact .fail _
  refine .of_first hs (fun c => (c = '=' ∨ c = '!') ∨ c = '<' ∨ c = 'P') (by decide) ?_
    (extensible_flaggedStart hs) rfl fun c cs hc => ?_
  · rintro c ((rfl | rfl) | rfl | rfl)
    · exact .fail _
    · exact .fail _
    · exact hangled
    · -- the letter is no flag
      refine .of_head hs '<' (by decide) extensible_namedStart (.fail .badFlags) (fun _ => rfl) rfl
        fun c cs hc => ?_
      simp [markedStart, hc]
      rfl
  · obtain ⟨hlook, hname⟩ := not_or.1 hc
    simp [markedStart, not_or.1 hlook, not_or.1 hname]

theorem extensible_readGroupStart (verbose : Bool) :
    Extensible s (Within s.tail) (readGroupStart verbose) := by
  have hbody : Extensible s (Within s.tail) fun
      | '?' :: rest => markedStart rest
      | rest => .ok (.capture none, rest) := by
    exact .of_head hs '?' (by decide) (extensible_markedStart hs) (.pure (.capture none))
      (fun _ => rfl) rfl fun c cs hc => by simp [hc]
  exact funext (readGroupStart_eq verbose) ▸ hbody.skip hs verbose

end

/-! ## One round -/

/-- What one round of reading a group comes to. -/
inductive GroupStep where
  | done
  | next (verbose : Bool) (p : Progress)
  | enter (verbose : Bool) (names : List String) (make : Tree → Tree)

/-- The tree of an escape. -/
def Escape.tree : Escape → Tree
  | .literal l => .literal l
  | .assertion a => .assertion a
  | .set t => .set t

section

variable (verbose : Bool) (p : Progress)

/-- A repetition of the last item. -/
def repeatItem (min : Nat) (max : Option Nat) : Reader GroupStep := fun cs =>
  repeated p.items >>= fun x =>
    .ok (.next verbose { p with items := .repetition x.1 min max :: x.2 }, cs)

/-- What the start of a group begins: flags, or a group with its names and flags. -/
def groupOpening : GroupStart → Reader GroupStep
  | .flags changes, cs =>
    .ok (.next ((changes.state? .ignoreWhitespace).getD verbose) (p.push (.flags changes)), cs)
  | .capture none, cs => .ok (.enter verbose p.names .capture, cs)
  | .capture (some name), cs =>
    if p.names.contains name then .error .repeatedGroupName
    else .ok (.enter verbose (name :: p.names) .capture, cs)
  | .group changes, cs =>
    .ok (.enter ((changes.state? .ignoreWhitespace).getD verbose) p.names (.group changes), cs)

/-- One round that begins with a character. -/
def groupTurn (c : Char) : Reader GroupStep := fun rest =>
  match c with
  | '(' => readGroupStart verbose rest >>= fun x => groupOpening verbose p x.1 x.2
  | '|' => .ok (.next verbose
      { p with branches := Tree.ofItems p.items.reverse :: p.branches, items := [] }, rest)
  | '[' => classStart verbose rest >>= fun x =>
    readClass verbose x.1.1 none x.1.2 (x.2.length + 1) x.2 >>= fun y =>
      .ok (.next verbose (p.push (.set y.1)), y.2)
  | '?' => repeatItem verbose p 0 (some 1) (skipLazy rest)
  | '*' => repeatItem verbose p 0 none (skipLazy rest)
  | '+' => repeatItem verbose p 1 none (skipLazy rest)
  | '{' => repeated p.items >>= fun item =>
    readCount verbose rest >>= fun x =>
      .ok (.next verbose { p with items := .repetition item.1 x.1.1 x.1.2 :: item.2 }, x.2)
  | '\\' => readEscape verbose rest >>= fun x => .ok (.next verbose (p.push x.1.tree), x.2)
  | '.' => .ok (.next verbose (p.push .dot), rest)
  | '^' => .ok (.next verbose (p.push (.assertion .lineStart)), rest)
  | '$' => .ok (.next verbose (p.push (.assertion .lineEnd)), rest)
  | c => .ok (.next verbose (p.push (.literal { char := c })), rest)

/-- One round of reading a group. -/
def groupStep : Reader GroupStep := fun cs =>
  match skip verbose cs with
  | [] => .ok (.done, [])
  | c :: rest => if c = ')' then .ok (.done, c :: rest) else groupTurn verbose p c rest

/-- The rest of a group, with its tree and the names so far in one. -/
def readTree (fuel : Nat) : Reader (Tree × List String) := fun cs =>
  readGroup verbose p fuel cs >>= fun x => .ok ((x.1, x.2.1), x.2.2)

end

/-- What goes on after the closing bracket of a group. -/
def afterBracket {α : Type} (F : Reader α) : Reader α
  | [] => .error .unclosedGroup
  | c :: rest => if c = ')' then F rest else .error .unclosedGroup

/-- How a group goes on after a round.  An inner group is an item of the outer one. -/
def groupRest (verbose : Bool) (p : Progress) (fuel : Nat) :
    GroupStep → Reader (Tree × List String)
  | .done, cs => .ok ((p.tree, p.names), cs)
  | .next verbose p, cs => readTree verbose p fuel cs
  | .enter inner names make, cs =>
    readTree inner { names } fuel cs >>= fun x =>
      afterBracket (readTree verbose { p.push (make x.1.1) with names := x.1.2 } fuel) x.2

theorem groupStep_of_skip {verbose : Bool} {p : Progress} {cs rest : List Char} {c : Char}
    (h : skip verbose cs = c :: rest) (hc : c ≠ ')') :
    groupStep verbose p cs = groupTurn verbose p c rest := by
  simp only [groupStep, h, hc, if_false]

/-- A group is read with its closing bracket, and is then an item of the outer one. -/
theorem groupRest_enter (verbose inner : Bool) (p : Progress) (fuel : Nat) (names : List String)
    (make : Tree → Tree) (rest : List Char) :
    groupRest verbose p fuel (.enter inner names make) rest =
      (do
        match ← readGroup inner { names } fuel rest with
        | (body, names, ')' :: rest) =>
          readGroup verbose { p.push (make body) with names } fuel rest
        | _ => throw Fault.unclosedGroup) >>= fun x => .ok ((x.1, x.2.1), x.2.2) := by
  simp only [groupRest, readTree, bind_assoc]
  congr 1
  funext ⟨body, names, rest⟩
  cases rest with
  | nil => rfl
  | cons c rest =>
      change afterBracket _ (c :: rest) = _
      by_cases hc : c = ')'
      · subst hc
        rfl
      · simp [afterBracket, hc]
        rfl

theorem readTree_succ_fuel (verbose : Bool) (p : Progress) (fuel : Nat) (cs : List Char) :
    readTree verbose p (fuel + 1) cs =
      groupStep verbose p cs >>= fun x => groupRest verbose p fuel x.1 x.2 := by
  unfold readTree
  rw [readGroup]
  split
  next heq => simp only [groupStep, heq]; rfl
  next heq => simp only [groupStep, heq]; rfl
  next heq =>
    rw [groupStep_of_skip heq (by decide)]
    simp only [groupTurn, bind_assoc]
    congr 1
    funext ⟨start, rest⟩
    match start with
    | .flags changes => rfl
    | .capture none => exact (groupRest_enter _ _ _ _ _ _ _).symm
    | .capture (some name) =>
        simp only [groupOpening]
        split
        · rfl
        · exact (groupRest_enter _ _ _ _ _ _ _).symm
    | .group changes => exact (groupRest_enter _ _ _ _ _ _ _).symm
  next heq => rw [groupStep_of_skip heq (by decide)]; rfl
  next heq =>
    rw [groupStep_of_skip heq (by decide)]
    simp only [groupTurn, readClassStart_eq, bind_assoc]
    rfl
  next heq =>
    rw [groupStep_of_skip heq (by decide)]
    simp only [groupTurn, repeatItem, bind_assoc]
    rfl
  next heq =>
    rw [groupStep_of_skip heq (by decide)]
    simp only [groupTurn, repeatItem, bind_assoc]
    rfl
  next heq =>
    rw [groupStep_of_skip heq (by decide)]
    simp only [groupTurn, repeatItem, bind_assoc]
    rfl
  next heq =>
    rw [groupStep_of_skip heq (by decide)]
    simp only [groupTurn, bind_assoc]
    rfl
  next heq =>
    rw [groupStep_of_skip heq (by decide)]
    simp only [groupTurn, bind_assoc]
    congr 1
    funext ⟨e, rest⟩
    cases e <;> rfl
  next heq => rw [groupStep_of_skip heq (by decide)]; rfl
  next heq => rw [groupStep_of_skip heq (by decide)]; rfl
  next heq => rw [groupStep_of_skip heq (by decide)]; rfl
  next hclose _ _ _ _ _ _ _ _ _ _ _ heq =>
    rw [groupStep_of_skip heq hclose]
    simp only [groupTurn]
    rfl

/-- What can be left of the continuation, or before it, after a round. -/
def AfterTurn (s : List Char) (verbose : Bool) (p : Progress) (step : GroupStep)
    (r : List Char) : Prop :=
  r <:+ s.tail ∨
    ∃ side, step = .next verbose (p.push (.assertion (.word side))) ∧ Unread s verbose side r

section

variable (hs : Closing s) (verbose : Bool) (p : Progress)
include hs

theorem extensible_wholeClass (negated : Bool) (start : List SetTree) :
    Extensible s (Within s.tail) fun cs =>
      readClass verbose negated none start (cs.length + 1) cs :=
  .of_fuel 1 (extensible_readClass verbose negated none start hs) (readClass_more_fuel verbose)

omit hs in
theorem extensible_repeatItem (min : Nat) (max : Option Nat) :
    Extensible s (Within s.tail) (repeatItem verbose p min max) := by
  unfold repeatItem
  cases repeated p.items with
  | error e => exact .fail e
  | ok x => exact .pure _

omit hs in
theorem extensible_groupOpening (start : GroupStart) :
    Extensible s (Within s.tail) (groupOpening verbose p start) := by
  match start with
  | .flags changes => exact .pure _
  | .capture none => exact .pure _
  | .capture (some name) => exact .ite (.fail _) (.pure _)
  | .group changes => exact .pure _

theorem extensible_groupTurn (c : Char) :
    Extensible s (AfterTurn s verbose p) (groupTurn verbose p c) := by
  have hinside {F : Reader GroupStep} (h : Extensible s (Within s.tail) F) :
      Extensible s (AfterTurn s verbose p) F :=
    h.mono fun _ _ => .inl
  unfold groupTurn
  split
  · exact hinside ((extensible_readGroupStart hs verbose).bind_within
      (extensible_groupOpening verbose p))
  · exact .pure _
  · have hclass (x : Bool × List SetTree) := (extensible_wholeClass hs verbose x.1 x.2).bind_within
      (G := fun t cs => .ok (GroupStep.next verbose (p.push (.set t)), cs)) fun _ => .pure _
    refine hinside ((extensible_classStart hs verbose).bind hclass ?_)
    intro x r step r' hr h
    obtain ⟨⟨t, after⟩, ht, h⟩ := bind_eq_ok.1 h
    cases h
    exact suffix_tail ((extensible_wholeClass hs verbose x.1 x.2).suffix ht)
      (readClass_length verbose ht) hr
  · exact hinside ((extensible_repeatItem verbose p 0 (some 1)).skipLazy hs)
  · exact hinside ((extensible_repeatItem verbose p 0 none).skipLazy hs)
  · exact hinside ((extensible_repeatItem verbose p 1 none).skipLazy hs)
  · cases repeated p.items with
    | error e => exact .fail e
    | ok item =>
        exact hinside ((extensible_readCount hs verbose).bind_within
          (G := fun (x : Nat × Option Nat) cs => .ok (GroupStep.next verbose
            { p with items := .repetition item.1 x.1 x.2 :: item.2 }, cs)) fun _ => .pure _)
  · refine (extensible_readEscape hs verbose).bind
      (G := fun e cs => .ok (GroupStep.next verbose (p.push e.tree), cs)) (fun _ => .pure _) ?_
    rintro e r step r' (hr | ⟨side, rfl, hr⟩) h <;> cases h
    · exact .inl hr
    · exact .inr ⟨side, rfl, hr⟩
  all_goals exact .pure _

theorem extensible_groupStep :
    Extensible s (AfterTurn s verbose p) (groupStep verbose p) := by
  have hturn : Extensible s (AfterTurn s verbose p) fun
      | [] => .error .unclosedGroup
      | c :: rest => groupTurn verbose p c rest :=
    .cases_fail hs (fun _ _ => .inl) ⟨_, rfl⟩ (extensible_groupTurn hs verbose p)
  have hbody : Extensible s (AfterTurn s verbose p) fun
      | [] => .ok (.done, [])
      | c :: rest => if c = ')' then .ok (.done, c :: rest) else groupTurn verbose p c rest := by
    -- a group is done at the end of the text just as it is at the bracket that comes after it
    refine .of_where (p := fun cs => ∀ c ∈ cs.head?, c = ')') (fun cs => ?_) (.pure .done) hturn
      (fun cs hcs => ?_) fun cs hcs => ?_
    · obtain ⟨rest, rfl, _⟩ := hs
      cases cs with
      | nil => simp
      | cons c cs => exact Iff.rfl
    · cases cs with
      | nil => rfl
      | cons c cs => simp only [hcs c rfl, if_true]
    · cases cs with
      | nil => exact absurd nofun hcs
      | cons c cs =>
          have hc : c ≠ ')' := fun hc => hcs fun d hd => by cases hd; exact hc
          simp only [hc, if_false]
  exact hbody.skip hs verbose

end

/-! ## The loop -/

theorem groupStep_length {verbose : Bool} {p : Progress} {cs r : List Char} {step : GroupStep}
    (h : groupStep verbose p cs = .ok (step, r)) : step = .done ∨ r.length < cs.length := by
  have hskip := length_skip_le verbose cs
  unfold groupStep at h
  split at h
  · cases h
    exact .inl rfl
  next c rest heq =>
    split at h
    · cases h
      exact .inl rfl
    · have hlen := ((extensible_groupTurn closing_bracket verbose p c).suffix h).length_le
      rw [heq, List.length_cons] at hskip
      exact .inr (by omega)

/-- After a boundary of words that has left its brace, reading comes to an end. -/
theorem readTree_of_unread (hs : Closing s) {verbose : Bool} {side : WordSide} {r : List Char}
    (h : Unread s verbose side r) (p : Progress) (fuel : Nat) :
    ∃ e, readTree verbose (p.push (.assertion (.word side))) fuel r = .error e := by
  cases fuel with
  | zero => exact ⟨_, rfl⟩
  | succ fuel =>
      obtain ⟨inner, rfl, hcount⟩ := h.readCount_fails hs
      have hskip : skip verbose ('{' :: inner) = '{' :: inner := by
        cases verbose <;> rfl
      have hstep : groupStep verbose (p.push (.assertion (.word side))) ('{' :: inner) =
          .error .badCount := by
        rw [groupStep_of_skip hskip (by decide)]
        change (readCount verbose inner >>= _) = _
        rw [hcount]
        rfl
      rw [readTree_succ_fuel, hstep]
      exact ⟨_, rfl⟩

theorem extensible_afterBracket {α : Type} (hs : Closing s) {F : Reader α}
    (hF : Extensible s (Within s.tail) F) : Extensible s (Within s.tail) (afterBracket F) := by
  refine .cases_fail hs (fun _ _ => id) ⟨_, rfl⟩ fun c => ?_
  exact .ite hF (.fail _)

theorem extensible_readTree (hs : Closing s) (verbose : Bool) (p : Progress) (fuel : Nat) :
    Extensible s (Within s.tail) (readTree verbose p fuel) := by
  induction fuel generalizing verbose p with
  | zero => exact .fail _
  | succ fuel ih =>
      have hrest (step : GroupStep) :
          Extensible s (Within s.tail) (groupRest verbose p fuel step) := by
        cases step with
        | done => exact .pure _
        | next verbose p => exact ih verbose p
        | enter inner names make =>
            refine (ih inner { names }).bind_within
              (G := fun x => afterBracket
                (readTree verbose { p.push (make x.1) with names := x.2 } fuel)) fun x => ?_
            exact extensible_afterBracket hs (ih _ _)
      refine funext (readTree_succ_fuel verbose p fuel) ▸
        (extensible_groupStep hs verbose p).bind hrest ?_
      rintro step r x r' (hr | ⟨side, rfl, hr⟩) h
      · exact ((hrest step).suffix h).trans hr
      · obtain ⟨e, he⟩ := readTree_of_unread hs hr p fuel
        change readTree _ _ fuel r = _ at h
        rw [he] at h
        cases h

theorem readTree_more_fuel {verbose : Bool} {p : Progress} {fuel : Nat} {cs : List Char}
    (h : cs.length < fuel) :
    readTree verbose p (fuel + 1) cs = readTree verbose p fuel cs := by
  induction fuel generalizing verbose p cs with
  | zero => exact absurd h (Nat.not_lt_zero _)
  | succ fuel ih =>
      rw [readTree_succ_fuel, readTree_succ_fuel]
      cases hstep : groupStep verbose p cs with
      | error e => rfl
      | ok x =>
          obtain ⟨step, rest⟩ := x
          have hlen := groupStep_length hstep
          cases step with
          | done => rfl
          | next verbose p =>
              have hlt : rest.length < cs.length := hlen.resolve_left nofun
              exact ih (show rest.length < fuel by omega)
          | enter inner names make =>
              have hlt : rest.length < cs.length := hlen.resolve_left nofun
              change (readTree inner { names } (fuel + 1) rest >>= _) =
                (readTree inner { names } fuel rest >>= _)
              rw [ih (by omega)]
              cases hinner : readTree inner { names } fuel rest with
              | error e => rfl
              | ok y =>
                  obtain ⟨⟨body, found⟩, after⟩ := y
                  have hread := extensible_readTree closing_bracket inner { names } fuel
                  have hafter : after.length ≤ rest.length := (hread.suffix hinner).length_le
                  change afterBracket _ after = afterBracket _ after
                  cases after with
                  | nil => rfl
                  | cons c after =>
                      rw [List.length_cons] at hafter
                      simp only [afterBracket]
                      rw [ih (by omega)]

end StepUp.Regex
