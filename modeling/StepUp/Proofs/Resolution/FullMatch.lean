import StepUp.Proofs.Regex.Bounds
import StepUp.Proofs.Resolution.Cached

/-!
# Matching in full

A pattern that has to match the whole of a value is compiled inside an anchored group, by pasting
its text between the opening and the closing part of that group.  This is meant to be the same as
matching the pattern itself from the start of the value to its end (`MatchesInFull`), and
`matchesInFull_iff` says for which patterns it is.

A pattern that is valid by itself keeps its meaning in the frame, whatever its groups, alternations,
classes and flags are, unless it does not fit (`Fits`): a comment at its end hides the closing part,
which takes a number sign (`EndsInComment.mem_sign`), or the group around it makes it too deep or
too large.  A pattern that is not valid by itself stays so in the frame, unless the fault is a
bracket that it does not open.  That one can close the frame, and when the pattern then opens
another group, the frame closes that.
-/

namespace StepUp

open Regex Cached
open Outcome (bind_eq_ok)

namespace Regex

/-! ## Whole patterns -/

/-- The tree of a pattern with the names of its groups, and what is left of the text. -/
def wholeTree : Reader (Tree × List String) := fun cs =>
  readTree false { names := [] } (cs.length + 1) cs

theorem extensible_wholeTree {s : List Char} (hs : Closing s) :
    Extensible s (Within s.tail) wholeTree :=
  .of_fuel 1 (extensible_readTree hs false { names := [] }) readTree_more_fuel

/-- A pattern takes all of its text, and is not too deep. -/
def closeTree : (Tree × List String) × List Char → Except Fault Tree
  | ((t, _), []) => if t.depth ≤ maxNesting then .ok t else .error .tooDeep
  | (_, _ :: _) => .error .unopenedGroup

theorem parse_eq (text : String) : Tree.parse text = wholeTree text.toList >>= closeTree := by
  unfold Tree.parse wholeTree readTree
  simp only [bind_assoc]
  congr 1
  funext ⟨t, names, rest⟩
  cases rest <;> rfl

/-! ## The frame -/

/-- The closing part of the frame. -/
def frameEnd : List Char := [')', '\\', 'z']

theorem closing_frameEnd : Closing frameEnd :=
  ⟨['\\', 'z'], rfl, by simp⟩

/-- The tree of a pattern in the frame. -/
def Tree.framed (t : Tree) : Tree :=
  .sequence [.assertion .textStart, .group [] t, .assertion .textEnd]

/-- The expression of a pattern in the frame. -/
def framed (r : Regex) : Regex :=
  .seq (.look .textStart) (.seq r (.look .textEnd))

theorem toList_anchoredText (pattern : String) :
    (anchoredText pattern).toList =
      '\\' :: 'A' :: '(' :: '?' :: ':' :: (pattern.toList ++ frameEnd) := by
  simp [anchoredText, frameEnd]

theorem Tree.depth_framed (t : Tree) : t.framed.depth = t.depth + 2 := by
  simp [Tree.framed, Tree.depth, Tree.depthOf]

/-- The frame reads a pattern as a group of its own. -/
theorem wholeTree_anchored (cs : List Char) :
    wholeTree ('\\' :: 'A' :: '(' :: '?' :: ':' :: cs) =
      wholeTree cs >>= fun x => afterBracket (readTree false
        { names := x.1.2, items := [.group [] x.1.1, .assertion .textStart] }
        (cs.length + 4)) x.2 := by
  have hfuel : readTree false { names := [] } (cs.length + 4) cs = wholeTree cs :=
    eq_of_fuel readTree_more_fuel (by omega)
  have hstart (rest : List Char) : groupStep false { names := [] } ('\\' :: 'A' :: rest) =
      .ok (.next false { names := [], items := [.assertion .textStart] }, rest) :=
    rfl
  have hgroup : groupStep false { names := [], items := [.assertion .textStart] }
      ('(' :: '?' :: ':' :: cs) = .ok (.enter false [] (.group []), cs) :=
    rfl
  unfold wholeTree
  simp only [List.length_cons]
  rw [readTree_succ_fuel, hstart]
  change readTree false _ (cs.length + 4 + 1) _ = _
  rw [readTree_succ_fuel, hgroup]
  change readTree false { names := [] } (cs.length + 4) cs >>= _ = _
  rw [hfuel]
  rfl

/-- After the group of the frame comes its end. -/
theorem readTree_frameEnd (t : Tree) (names : List String) (fuel : Nat) :
    readTree false { names, items := [.group [] t, .assertion .textStart] } (fuel + 2)
      ['\\', 'z'] = .ok ((t.framed, names), []) :=
  rfl

/-- The ways in which the frame reads a pattern. -/
theorem wholeTree_frame (pattern : String) :
    wholeTree (anchoredText pattern).toList =
      wholeTree (pattern.toList ++ frameEnd) >>= fun x => afterBracket (readTree false
        { names := x.1.2, items := [.group [] x.1.1, .assertion .textStart] }
        ((pattern.toList ++ frameEnd).length + 4)) x.2 := by
  rw [toList_anchoredText, wholeTree_anchored]

/-- The pattern ends in a comment: it is read the same with the closing part of the frame after
it. -/
def EndsInComment (pattern : String) : Prop :=
  ∃ t, Tree.parse pattern = .ok t ∧ Tree.parse (pattern ++ ")\\z") = .ok t

theorem parse_closed (pattern : String) :
    Tree.parse (pattern ++ ")\\z") = wholeTree (pattern.toList ++ frameEnd) >>= closeTree := by
  rw [parse_eq]
  simp [frameEnd]

theorem parse_anchoredText (pattern : String) :
    Tree.parse (anchoredText pattern) =
      (wholeTree (pattern.toList ++ frameEnd) >>= fun x => afterBracket (readTree false
        { names := x.1.2, items := [.group [] x.1.1, .assertion .textStart] }
        ((pattern.toList ++ frameEnd).length + 4)) x.2) >>= closeTree := by
  rw [parse_eq, wholeTree_frame]

theorem parse_eq_ok {text : String} {t : Tree} :
    Tree.parse text = .ok t ↔
      (∃ names, wholeTree text.toList = .ok ((t, names), [])) ∧ t.depth ≤ maxNesting := by
  rw [parse_eq, bind_eq_ok]
  constructor
  · rintro ⟨⟨⟨t', names⟩, rest⟩, hx, hclose⟩
    cases rest with
    | cons c rest => cases hclose
    | nil =>
        simp only [closeTree] at hclose
        split at hclose
        next hdepth =>
          cases hclose
          exact ⟨⟨names, hx⟩, hdepth⟩
        · cases hclose
  · rintro ⟨⟨names, hx⟩, hdepth⟩
    exact ⟨_, hx, if_pos hdepth⟩

/-- The frame closes its group after a pattern that leaves nothing open, unless a comment hides the
closing part. -/
theorem wholeTree_closed {pattern : String} {x : Tree × List String}
    (h : wholeTree pattern.toList = .ok (x, [])) :
    wholeTree (pattern.toList ++ frameEnd) = .ok (x, frameEnd) ∨
      '#' ∈ pattern.toList ∧ wholeTree (pattern.toList ++ frameEnd) = .ok (x, []) := by
  have hextends := (extensible_wholeTree closing_frameEnd).extends_append pattern.toList
  rw [h] at hextends
  exact hextends.imp_right (And.imp_right And.right)

/-- Only a pattern with a number sign ends in a comment. -/
theorem EndsInComment.mem_sign {pattern : String} (h : EndsInComment pattern) :
    '#' ∈ pattern.toList := by
  obtain ⟨t, ht, hcomment⟩ := h
  obtain ⟨⟨names, hwhole⟩, _⟩ := parse_eq_ok.1 ht
  rcases wholeTree_closed hwhole with hclosed | ⟨hsign, _⟩
  · rw [parse_closed, hclosed] at hcomment
    cases hcomment
  · exact hsign

theorem parse_anchoredText_of_closed {pattern : String} {t : Tree} {names : List String}
    (h : wholeTree (pattern.toList ++ frameEnd) = .ok ((t, names), frameEnd)) :
    Tree.parse (anchoredText pattern) =
      if t.depth + 2 ≤ maxNesting then .ok t.framed else .error .tooDeep := by
  rw [parse_anchoredText, h]
  change readTree false _ ((pattern.toList ++ frameEnd).length + 2 + 2) ['\\', 'z'] >>=
    closeTree = _
  rw [readTree_frameEnd]
  change (if t.framed.depth ≤ maxNesting then _ else _) = _
  rw [Tree.depth_framed]

theorem parse_anchoredText_of_hidden {pattern : String} {x : Tree × List String}
    (h : wholeTree (pattern.toList ++ frameEnd) = .ok (x, [])) :
    Tree.parse (anchoredText pattern) = .error .unclosedGroup := by
  rw [parse_anchoredText, h]
  rfl

/-- A pattern that can be read keeps its tree in the frame, if the frame does not make it too deep
and no comment hides the closing part. -/
theorem parse_anchoredText_eq_ok_iff {pattern : String} {t t' : Tree}
    (h : Tree.parse pattern = .ok t) :
    Tree.parse (anchoredText pattern) = .ok t' ↔
      ¬ EndsInComment pattern ∧ t.depth + 2 ≤ maxNesting ∧ t' = t.framed := by
  obtain ⟨⟨names, hwhole⟩, hdepth⟩ := parse_eq_ok.1 h
  rcases wholeTree_closed hwhole with hclosed | ⟨_, hhidden⟩
  · have hopen : ¬ EndsInComment pattern := by
      rintro ⟨u, _, hu⟩
      rw [parse_closed, hclosed] at hu
      cases hu
    rw [parse_anchoredText_of_closed hclosed]
    split
    next hfits =>
      exact ⟨fun heq => by cases heq; exact ⟨hopen, hfits, rfl⟩, fun ⟨_, _, heq⟩ => heq ▸ rfl⟩
    next hfits => exact ⟨nofun, fun ⟨_, hle, _⟩ => absurd hle hfits⟩
  · have hcomment : EndsInComment pattern := by
      refine ⟨t, h, ?_⟩
      rw [parse_closed, hhidden]
      exact if_pos hdepth
    rw [parse_anchoredText_of_hidden hhidden]
    exact ⟨nofun, fun ⟨hopen, _⟩ => absurd hcomment hopen⟩

/-- A pattern that cannot be read cannot be read in the frame either, unless what is wrong is a
closing bracket too many. -/
theorem parse_anchoredText_fails {pattern : String} {e : Fault}
    (h : Tree.parse pattern = .error e) (he : e ≠ .unopenedGroup) :
    ∃ e', Tree.parse (anchoredText pattern) = .error e' := by
  cases hwhole : wholeTree pattern.toList with
  | ok x =>
      obtain ⟨⟨t, names⟩, rest⟩ := x
      rw [parse_eq, hwhole] at h
      cases rest with
      | cons c rest =>
          cases h
          exact absurd rfl he
      | nil =>
          have hdeep : ¬ t.depth ≤ maxNesting := by
            intro hdepth
            change (if t.depth ≤ maxNesting then _ else _) = _ at h
            rw [if_pos hdepth] at h
            cases h
          rcases wholeTree_closed hwhole with hclosed | ⟨_, hhidden⟩
          · exact ⟨_, (parse_anchoredText_of_closed hclosed).trans (if_neg (by omega))⟩
          · exact ⟨_, parse_anchoredText_of_hidden hhidden⟩
  | error e' =>
      -- to go on the pattern has to take the only bracket that could close the group of the frame
      have hpast := (extensible_wholeTree closing_frameEnd).extends_append pattern.toList
      rw [hwhole] at hpast
      rw [parse_anchoredText]
      cases hclosed : wholeTree (pattern.toList ++ frameEnd) with
      | error e' => exact ⟨e', rfl⟩
      | ok x =>
          obtain ⟨x, rest⟩ := x
          have hlast : rest <:+ frameEnd.tail := hpast _ _ hclosed
          cases rest with
          | nil => exact ⟨_, rfl⟩
          | cons c rest =>
              have hc : c ≠ ')' := by
                rintro rfl
                exact closing_frameEnd.not_mem_tail (hlast.subset List.mem_cons_self)
              refine ⟨.unclosedGroup, ?_⟩
              change afterBracket _ (c :: rest) >>= _ = _
              simp only [afterBracket, hc, if_false]
              rfl

/-! ## Lowering -/

variable [Dialect]

/-- The frame makes no expression smaller. -/
theorem fits_of_framed {r : Regex} (h : Dialect.fits r.framed = true) : Dialect.fits r = true :=
  (Dialect.fits_of_seq (Dialect.fits_of_seq h).2).1

theorem Tree.toRegex_framed (t : Tree) (f : Flags) :
    t.framed.toRegex f = t.toRegex f >>= fun x => .ok (x.1.framed, f) := by
  simp only [Tree.framed, Tree.toRegex, Tree.toSequence, bind_assoc]
  rfl

theorem compile_eq (text : String) :
    compile text = Tree.parse text >>= fun t => t.toRegex {} >>= fun x =>
      if Dialect.fits x.1 then .ok x.1 else .error .tooLarge :=
  rfl

end Regex

/-! ## Patterns in the frame -/

section

variable [Regex.Dialect]

/-- The frame leaves a pattern as it is. -/
structure Fits (pattern : String) : Prop where
  not_hidden : ¬ EndsInComment pattern
  nesting : ∀ t, Tree.parse pattern = .ok t → t.depth + 2 ≤ maxNesting
  size : ∀ r, compile pattern = .ok r → Dialect.fits r.framed = true

theorem compile_eq_ok {text : String} {r : Regex} :
    compile text = .ok r ↔
      ∃ t f, Tree.parse text = .ok t ∧ t.toRegex {} = .ok (r, f) ∧ Dialect.fits r = true := by
  rw [compile_eq, bind_eq_ok]
  simp only [bind_eq_ok]
  constructor
  · rintro ⟨t, ht, ⟨r', f⟩, hr, h⟩
    split at h
    next hsize =>
      cases h
      exact ⟨t, f, ht, hr, hsize⟩
    · cases h
  · rintro ⟨t, f, ht, hr, hsize⟩
    exact ⟨t, ht, (r, f), hr, if_pos hsize⟩

/-- Every expression that a text writes has the bounds of its repetitions in order. -/
theorem ordered_of_compile {text : String} {r : Regex} (h : compile text = .ok r) : r.Ordered := by
  obtain ⟨t, f, ht, hr, _⟩ := compile_eq_ok.1 h
  obtain ⟨⟨names, hwhole⟩, _⟩ := parse_eq_ok.1 ht
  exact Tree.toRegex_ordered t (readTree_ordered (Progress.ordered_nil []) hwhole) hr

/-- A valid pattern compiles in the frame if it fits there, and then to its own expression between
anchors. -/
theorem compileAnchored_eq_ok_iff {pattern : String} {r r' : Regex}
    (h : compile pattern = .ok r) :
    compileAnchored pattern = .ok r' ↔ Fits pattern ∧ r' = r.framed := by
  obtain ⟨t, f, ht, hr, hsize⟩ := compile_eq_ok.1 h
  have hframed : t.framed.toRegex {} = .ok (r.framed, {}) := by
    rw [Tree.toRegex_framed, hr]
    rfl
  unfold compileAnchored
  rw [compile_eq_ok]
  constructor
  · rintro ⟨t', f', ht', hr', hsize'⟩
    obtain ⟨hopen, hdepth, rfl⟩ := (parse_anchoredText_eq_ok_iff ht).1 ht'
    rw [hframed] at hr'
    cases hr'
    refine ⟨⟨hopen, fun u hu => ?_, fun r' hr' => ?_⟩, rfl⟩
    · rw [ht] at hu
      cases hu
      exact hdepth
    · rw [h] at hr'
      cases hr'
      exact hsize'
  · rintro ⟨hfits, rfl⟩
    exact ⟨t.framed, {},
      (parse_anchoredText_eq_ok_iff ht).2 ⟨hfits.not_hidden, hfits.nesting t ht, rfl⟩, hframed,
      hfits.size r h⟩

/-- A pattern that is not valid does not compile in the frame either, unless what is wrong is a
closing bracket too many. -/
theorem compileAnchored_fails {pattern : String} {e : Fault} (h : compile pattern = .error e)
    (he : e ≠ .unopenedGroup) : ∃ e', compileAnchored pattern = .error e' := by
  unfold compileAnchored
  cases hcompile : compile (anchoredText pattern) with
  | error e' => exact ⟨e', rfl⟩
  | ok r' =>
      exfalso
      obtain ⟨t', f', ht', hr', hsize'⟩ := compile_eq_ok.1 hcompile
      cases ht : Tree.parse pattern with
      | error e' =>
          rw [compile_eq, ht] at h
          cases h
          obtain ⟨e', he'⟩ := parse_anchoredText_fails ht he
          rw [he'] at ht'
          cases ht'
      | ok t =>
          obtain ⟨_, _, rfl⟩ := (parse_anchoredText_eq_ok_iff ht).1 ht'
          rw [Tree.toRegex_framed] at hr'
          obtain ⟨⟨r, f⟩, hr, hframed⟩ := bind_eq_ok.1 hr'
          cases hframed
          have hvalid : compile pattern = .ok r :=
            compile_eq_ok.2 ⟨t, f, ht, hr, fits_of_framed hsize'⟩
          rw [hvalid] at h
          cases h

/-! ## Matching in full -/

theorem answer_fullMatch (pattern value : String) (c : PatternCache) :
    answer (fullMatch pattern value) c =
      match compileAnchored pattern with
      | .ok r => .ok (r.isMatch value)
      | .error fault => .error (.invalidPattern pattern fault.message) := by
  unfold fullMatch
  rw [answer_bind, answer_compiledPattern]
  cases compileAnchored pattern <;> rfl

/-- A valid pattern that fits into the frame is matched with the whole of the value. -/
theorem answer_fullMatch_of_fits {pattern : String} {r : Regex} (h : compile pattern = .ok r)
    (hfits : Fits pattern) (value : String) (c : PatternCache) :
    ∃ matched, answer (fullMatch pattern value) c = .ok matched ∧
      (matched = true ↔ Matches value.toList r 0 value.toList.length) := by
  have hframe : compileAnchored pattern = .ok r.framed :=
    (compileAnchored_eq_ok_iff h).2 ⟨hfits, rfl⟩
  rw [answer_fullMatch, hframe]
  exact ⟨_, rfl, isMatch_anchored (ordered_of_compile h) value⟩

/-- Matching in full is about the pattern by itself, with any value and any cache: it fails when
the pattern is not valid, and otherwise says whether the pattern matches the value from its start to
its end. -/
def MatchesInFull (pattern : String) : Prop :=
  ∀ (value : String) (c : PatternCache),
    ((∃ message, answer (fullMatch pattern value) c = .error (.invalidPattern pattern message)) ↔
      ¬ ∃ r, compile pattern = .ok r) ∧
    ∀ r, compile pattern = .ok r →
      ∃ matched, answer (fullMatch pattern value) c = .ok matched ∧
        (matched = true ↔ Matches value.toList r 0 value.toList.length)

/-- Matching in full keeps what it promises for the patterns that fit into the frame, if they are
valid, and for those that the frame does not make valid, if they are not.  Only patterns with a
closing bracket too many can be made valid so. -/
theorem matchesInFull_iff (pattern : String) :
    MatchesInFull pattern ↔
      (∀ r, compile pattern = .ok r → Fits pattern) ∧
        (compile pattern = .error .unopenedGroup → ∀ r, compileAnchored pattern ≠ .ok r) := by
  constructor
  · intro h
    obtain ⟨hfails, hmatches⟩ := h "" .empty
    rw [answer_fullMatch] at hfails hmatches
    constructor
    · intro r hr
      obtain ⟨matched, hanswer, _⟩ := hmatches r hr
      cases hframe : compileAnchored pattern with
      | error e =>
          rw [hframe] at hanswer
          cases hanswer
      | ok r' => exact ((compileAnchored_eq_ok_iff hr).1 hframe).1
    · intro hinvalid r hr
      obtain ⟨message, hanswer⟩ := hfails.2 fun ⟨r, hr⟩ => by rw [hinvalid] at hr; cases hr
      rw [hr] at hanswer
      cases hanswer
  · rintro ⟨hfits, hunopened⟩ value c
    cases hcompile : compile pattern with
    | ok r =>
        have hfull := answer_fullMatch_of_fits hcompile (hfits r hcompile) value c
        refine ⟨⟨fun ⟨_, herror⟩ => ?_, fun h => absurd ⟨r, rfl⟩ h⟩, fun r' hr' => ?_⟩
        · obtain ⟨matched, hanswer, _⟩ := hfull
          rw [hanswer] at herror
          cases herror
        · cases hr'
          exact hfull
    | error e =>
        have hframe : ∃ e', compileAnchored pattern = .error e' := by
          by_cases he : e = .unopenedGroup
          · subst he
            cases hanchored : compileAnchored pattern with
            | error e' => exact ⟨e', rfl⟩
            | ok r => exact absurd hanchored (hunopened hcompile r)
          · exact compileAnchored_fails hcompile he
        obtain ⟨e', he'⟩ := hframe
        rw [answer_fullMatch, he']
        exact ⟨⟨fun _ => nofun, fun _ => ⟨_, rfl⟩⟩, nofun⟩

end

/-- The frame makes one pattern invalid, whose comment hides the closing bracket, and another one
valid, which closes the frame and opens a group in its place; that one then matches a part of the
value. -/
theorem fullMatch_depends_on_frame :
    (∃ r, compile "(?x)a # comment" = .ok r) ∧
      answer (fullMatch "(?x)a # comment" "a") .empty =
        .error (.invalidPattern "(?x)a # comment" "unclosed group") ∧
    compile "a)|(?:b" = .error .unopenedGroup ∧
      answer (fullMatch "a)|(?:b" "axyz") .empty = .ok true := by
  refine ⟨⟨_, rfl⟩, rfl, rfl, ?_⟩
  have hordered := ordered_of_compile (rfl : compile (anchoredText "a)|(?:b") = .ok _)
  have hmatch := (isMatch_iff hordered "axyz").2
    ⟨0, Nat.zero_le _, 1, .inl ⟨0, ⟨rfl, rfl⟩, rfl, 'a', rfl, rfl⟩⟩
  exact congrArg Except.ok hmatch

end StepUp
