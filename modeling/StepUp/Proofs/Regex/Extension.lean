import StepUp.Proofs.Failure.Outcome
import StepUp.Regex.Reader
import Mathlib.Data.List.Infix

/-!
# Reading a text that is continued

A pattern inside a frame is a text with the closing part of the frame after it.  Every reader of the
syntax works its way through a text from the front, so with more text after it a reader should do
the same (`Extensible`).  Two things can come between.

* In the verbose mode a comment goes on to the end of the line.  A text that ends in one swallows
  what comes after it, and then the reader does not get to see the continuation at all.  This takes
  a number sign in the text.
* A reader that fails at the end of the text can go on where there is more.  It can succeed then,
  but not without taking a part of the continuation; the readers here say what they leave of it.

The combinators below follow the readers: one reader after another (`Extensible.bind`), white space
(`Extensible.skip`, `Extensible.skipTo`), and the character that decides (`Extensible.cases`).  A
recursive reader is extensible at every amount of fuel, by induction on the fuel; that it has enough
of it is what `Extensible.of_fuel` asks for besides.
-/

namespace StepUp.Regex

/-- A reader takes something from the front of a text, and leaves the rest. -/
abbrev Reader (α : Type) :=
  List Char → Except Fault (α × List Char)

/-- A continuation that begins with a closing bracket, and then ends no group, comment or name of a
class. -/
def Closing (s : List Char) : Prop :=
  ∃ rest, s = ')' :: rest ∧ ∀ c ∈ rest, c ≠ ')' ∧ c ≠ '\n' ∧ c ≠ ':'

/-- Only some last part of a text is left. -/
def Within {α : Type} (u : List Char) (_ : α) (r : List Char) : Prop :=
  r <:+ u

variable {α β : Type} {s : List Char} {P : α → List Char → Prop} {Q : β → List Char → Prop}

theorem closing_bracket : Closing [')'] :=
  ⟨[], rfl, nofun⟩

/-- What a reader gives on a text, and what it gives on the text with `s` after it.  The results are
the same, but for the rest, unless `s` is hidden; if the first is a failure, the second can be what
`P` allows. -/
def Extends (s : List Char) (P : α → List Char → Prop) (hidden : Prop)
    (x y : Except Fault (α × List Char)) : Prop :=
  match x with
  | .ok (a, r) => y = .ok (a, r ++ s) ∨ (hidden ∧ r = [] ∧ y = .ok (a, []))
  | .error _ => ∀ a r, y = .ok (a, r) → P a r

namespace Extends

variable {hidden : Prop}

theorem ok (a : α) (r : List Char) : Extends s P hidden (.ok (a, r)) (.ok (a, r ++ s)) :=
  .inl rfl

theorem error (e e' : Fault) : Extends s P hidden (.error e) (.error e') :=
  nofun

theorem mono {P' : α → List Char → Prop} {hidden' : Prop} {x y : Except Fault (α × List Char)}
    (h : Extends s P hidden x y) (hP : ∀ a r, P a r → P' a r) (hhidden : hidden → hidden') :
    Extends s P' hidden' x y := by
  cases x with
  | ok x => exact h.imp_right (And.imp_left hhidden)
  | error e => exact fun a r hy => hP a r (h a r hy)

end Extends

/-- The reader leaves a last part of its text, and does with more text what it does without. -/
structure Extensible (s : List Char) (P : α → List Char → Prop) (F : Reader α) : Prop where
  suffix : ∀ {cs a r}, F cs = .ok (a, r) → r <:+ cs
  extends_append : ∀ cs, Extends s P ('#' ∈ cs) (F cs) (F (cs ++ s))

namespace Closing

variable (hs : Closing s)
include hs

theorem ne_nil : s ≠ [] := by
  obtain ⟨rest, rfl, _⟩ := hs
  exact List.cons_ne_nil _ _

theorem not_mem_newline : '\n' ∉ s := by
  obtain ⟨rest, rfl, h⟩ := hs
  intro hmem
  rcases List.mem_cons.1 hmem with heq | hmem
  · exact absurd heq (by decide)
  · exact (h _ hmem).2.1 rfl

theorem not_mem_colon : ':' ∉ s := by
  obtain ⟨rest, rfl, h⟩ := hs
  intro hmem
  rcases List.mem_cons.1 hmem with heq | hmem
  · exact absurd heq (by decide)
  · exact (h _ hmem).2.2 rfl

theorem not_mem_tail : ')' ∉ s.tail := by
  obtain ⟨rest, rfl, h⟩ := hs
  exact fun hmem => (h _ hmem).1 rfl

/-- What a text begins with does not change with the continuation, unless it is a bracket. -/
theorem head?_append {c : Char} (hc : c ≠ ')') (cs : List Char) :
    (cs ++ s).head? = some c ↔ cs.head? = some c := by
  obtain ⟨rest, rfl, _⟩ := hs
  cases cs with
  | nil => simpa using Ne.symm hc
  | cons d cs => exact Iff.rfl

end Closing

/-! ## Readers and their parts -/

/-- Where more fuel makes no difference, any amount that is enough gives the same. -/
theorem eq_of_fuel {R : Nat → Reader α} {extra fuel : Nat} {cs : List Char}
    (more : ∀ {fuel}, cs.length + extra ≤ fuel → R (fuel + 1) cs = R fuel cs)
    (h : cs.length + extra ≤ fuel) : R fuel cs = R (cs.length + extra) cs := by
  induction fuel, h using Nat.le_induction with
  | base => rfl
  | succ fuel hle ih => rw [more hle, ih]

namespace Extensible

theorem pure (a : α) : Extensible s P fun cs => .ok (a, cs) where
  suffix h := by cases h; exact List.suffix_rfl
  extends_append cs := .ok a cs

theorem fail (e : Fault) : Extensible s P (fun _ => .error e) where
  suffix := nofun
  extends_append _ := .error e e

theorem ite {p : Prop} [Decidable p] {F G : Reader α} (hF : Extensible s P F)
    (hG : Extensible s P G) : Extensible s P fun cs => if p then F cs else G cs := by
  by_cases h : p
  · simpa only [h, if_true] using hF
  · simpa only [h, if_false] using hG

theorem mono {P' : α → List Char → Prop} {F : Reader α} (hF : Extensible s P F)
    (hP : ∀ a r, P a r → P' a r) : Extensible s P' F where
  suffix := hF.suffix
  extends_append cs := (hF.extends_append cs).mono hP id

/-- On the last part of a text. -/
theorem extends_suffix {F : Reader α} (hF : Extensible s P F) {r cs : List Char} (h : r <:+ cs) :
    Extends s P ('#' ∈ cs) (F r) (F (r ++ s)) :=
  (hF.extends_append r).mono (fun _ _ => id) fun hr => h.subset hr

/-- At the end of a text, with the continuation hidden. -/
theorem extends_nil {F : Reader α} (hF : Extensible s P F) {hidden : Prop} (h : hidden) :
    Extends s P hidden (F []) (F []) := by
  cases hx : F [] with
  | ok x =>
      obtain ⟨a, r⟩ := x
      obtain rfl : r = [] := List.suffix_nil.1 (hF.suffix hx)
      exact .inr ⟨h, rfl, rfl⟩
  | error e => exact .error e e

/-- One reader after another.  What the first leaves when it has gone on into the continuation is
where the second begins. -/
theorem bind {F : Reader α} {G : α → Reader β} (hF : Extensible s P F)
    (hG : ∀ a, Extensible s Q (G a))
    (past : ∀ a r b r', P a r → G a r = .ok (b, r') → Q b r') :
    Extensible s Q fun cs => F cs >>= fun x => G x.1 x.2 where
  suffix {cs b r} h := by
    cases hx : F cs with
    | error e => rw [hx] at h; cases h
    | ok x => rw [hx] at h; exact ((hG _).suffix h).trans (hF.suffix hx)
  extends_append cs := by
    have hcs := hF.extends_append cs
    cases hx : F cs with
    | error e =>
        rw [hx] at hcs
        intro b r' hy
        cases hx' : F (cs ++ s) with
        | error e' => rw [hx'] at hy; cases hy
        | ok x => rw [hx'] at hy; exact past _ _ b r' (hcs _ _ hx') hy
    | ok x =>
        obtain ⟨a, r⟩ := x
        rw [hx] at hcs
        rcases hcs with h | ⟨hhidden, rfl, h⟩
        · rw [h]; exact (hG a).extends_suffix (hF.suffix hx)
        · rw [h]; exact (hG a).extends_nil hhidden

/-- One reader after another, where both leave a last part of the same text. -/
theorem bind_within {u : List Char} {F : Reader α} {G : α → Reader β}
    (hF : Extensible s (Within u) F) (hG : ∀ a, Extensible s (Within u) (G a)) :
    Extensible s (Within u) fun cs => F cs >>= fun x => G x.1 x.2 :=
  hF.bind hG fun a _ _ _ hr h => ((hG a).suffix h).trans hr

/-- A reader by the first character. -/
theorem cases {F : Reader α} (hnil : ∀ a r, F [] = .ok (a, r) → r = [])
    (hend : Extends s P False (F []) (F s)) (hcons : ∀ c, Extensible s P fun cs => F (c :: cs)) :
    Extensible s P F where
  suffix {cs a r} h := by
    cases cs with
    | nil => rw [hnil a r h]
    | cons c cs => exact ((hcons c).suffix h).trans (List.suffix_cons c cs)
  extends_append cs := by
    cases cs with
    | nil => exact hend.mono (fun _ _ => id) False.elim
    | cons c cs =>
        exact ((hcons c).extends_append cs).mono (fun _ _ => id) (List.mem_cons_of_mem c)

/-- A reader by the first character that has to have one: to go on it takes the closing bracket. -/
theorem cases_fail (hs : Closing s) {F : Reader α} (hP : ∀ a r, r <:+ s.tail → P a r)
    (hnil : ∃ e, F [] = .error e) (hcons : ∀ c, Extensible s P fun cs => F (c :: cs)) :
    Extensible s P F := by
  obtain ⟨e, he⟩ := hnil
  refine .cases (by simp [he]) ?_ hcons
  rw [he]
  intro a r hy
  obtain ⟨rest, rfl, _⟩ := hs
  exact hP a r ((hcons ')').suffix hy)

/-- A reader that takes one of two ways, and the continuation does not change which. -/
theorem of_where {p : List Char → Prop} (hp : ∀ cs, p (cs ++ s) ↔ p cs) {F G H : Reader α}
    (hF : Extensible s P F) (hG : Extensible s P G) (pos : ∀ cs, p cs → H cs = F cs)
    (neg : ∀ cs, ¬ p cs → H cs = G cs) : Extensible s P H where
  suffix {cs a r} h := by
    by_cases hcs : p cs
    · exact hF.suffix (pos cs hcs ▸ h)
    · exact hG.suffix (neg cs hcs ▸ h)
  extends_append cs := by
    by_cases hcs : p cs
    · rw [pos cs hcs, pos _ ((hp cs).2 hcs)]
      exact hF.extends_append cs
    · rw [neg cs hcs, neg _ fun h => hcs ((hp cs).1 h)]
      exact hG.extends_append cs

/-- A reader after some characters only. -/
def onlyAfter (p : Char → Prop) [DecidablePred p] (H : Reader α) : Reader α
  | c :: cs => if p c then H (c :: cs) else .error .badEscape
  | [] => .error .badEscape

/-- A reader that goes its own ways after some characters, and takes another way if the text begins
otherwise. -/
theorem of_first (hs : Closing s) (p : Char → Prop) (hp : ¬ p ')') {G H : Reader α}
    (first : ∀ c, p c → Extensible s P fun cs => H (c :: cs)) (hG : Extensible s P G)
    (nil : H [] = G []) (other : ∀ c cs, ¬ p c → H (c :: cs) = G (c :: cs)) :
    Extensible s P H := by
  classical
  have hfirst : Extensible s P (onlyAfter p H) := by
    refine .cases nofun ?_ fun c => ?_
    · obtain ⟨rest, rfl, _⟩ := hs
      simp only [onlyAfter, hp, if_false]
      exact .error _ _
    · by_cases hc : p c
      · simpa only [onlyAfter, hc, if_true] using first c hc
      · simpa only [onlyAfter, hc, if_false] using .fail _
  -- the continuation begins with a bracket, so it does not change which way is taken
  have hsame (cs : List Char) : (∃ c ∈ (cs ++ s).head?, p c) ↔ ∃ c ∈ cs.head?, p c := by
    obtain ⟨rest, rfl, _⟩ := hs
    cases cs with
    | nil => simpa using hp
    | cons d cs => exact Iff.rfl
  refine .of_where (p := fun cs => ∃ c ∈ cs.head?, p c) hsame hfirst hG ?_ fun cs hcs => ?_
  · rintro cs ⟨c, hc, hpc⟩
    obtain ⟨rest, rfl⟩ := List.head?_eq_some_iff.1 hc
    simp only [onlyAfter, hpc, if_true]
  · cases cs with
    | nil => exact nil
    | cons c cs => exact other c cs fun hc => hcs ⟨c, rfl, hc⟩

/-- A reader that takes one way after a character, and another if the text begins otherwise. -/
theorem of_head (hs : Closing s) (c : Char) (hc : c ≠ ')') {F G H : Reader α}
    (hF : Extensible s P F) (hG : Extensible s P G) (head : ∀ cs, H (c :: cs) = F cs)
    (nil : H [] = G []) (other : ∀ d cs, d ≠ c → H (d :: cs) = G (d :: cs)) :
    Extensible s P H := by
  refine .of_first hs (· = c) (Ne.symm hc) (fun d hd => ?_) hG nil other
  subst hd
  exact funext head ▸ hF

/-- A reader that asks first for something that may be there. -/
theorem of_option {o : List Char → Option (α × List Char)} {f : α → β} {F : Reader β}
    (append : ∀ cs, o (cs ++ s) = (o cs).map fun x => (x.1, x.2 ++ s))
    (suffix : ∀ {cs a r}, o cs = some (a, r) → r <:+ cs) (hF : Extensible s Q F) :
    Extensible s Q fun cs => (o cs).elim (F cs) fun x => .ok (f x.1, x.2) where
  suffix {cs b r} h := by
    cases hcs : o cs with
    | none => rw [hcs] at h; exact hF.suffix h
    | some x => rw [hcs] at h; cases h; exact suffix hcs
  extends_append cs := by
    rw [append]
    cases o cs with
    | none => exact hF.extends_append cs
    | some x => exact .ok _ x.2

/-- A reader with fuel for every character, when more fuel makes no difference. -/
theorem of_fuel {R : Nat → Reader α} (extra : Nat) (hR : ∀ fuel, Extensible s P (R fuel))
    (more : ∀ {fuel cs}, cs.length + extra ≤ fuel → R (fuel + 1) cs = R fuel cs) :
    Extensible s P fun cs => R (cs.length + extra) cs where
  suffix h := (hR _).suffix h
  extends_append cs := by
    rw [← eq_of_fuel more (show cs.length + extra ≤ (cs ++ s).length + extra by simp)]
    exact (hR _).extends_append cs

end Extensible

/-! ## White space and comments -/

theorem skipVerbose_suffix (inComment : Bool) (cs : List Char) :
    skipVerbose inComment cs <:+ cs := by
  induction cs generalizing inComment with
  | nil => exact List.suffix_rfl
  | cons c rest ih =>
      unfold skipVerbose
      split
      · exact (ih _).trans (List.suffix_cons c rest)
      · split
        · exact (ih _).trans (List.suffix_cons c rest)
        · split
          · exact (ih _).trans (List.suffix_cons c rest)
          · exact List.suffix_rfl

theorem skip_suffix (verbose : Bool) (cs : List Char) : skip verbose cs <:+ cs := by
  unfold skip
  split
  · exact skipVerbose_suffix false cs
  · exact List.suffix_rfl

theorem length_skip_le (verbose : Bool) (cs : List Char) : (skip verbose cs).length ≤ cs.length :=
  (skip_suffix verbose cs).length_le

/-- A comment swallows what has no line break. -/
theorem skipVerbose_comment {cs : List Char} (h : '\n' ∉ cs) : skipVerbose true cs = [] := by
  induction cs with
  | nil => rfl
  | cons c rest ih =>
      rw [List.mem_cons, not_or] at h
      have hc : (c != '\n') = true := by simpa using fun heq => h.1 (Eq.symm heq)
      rw [skipVerbose, if_pos rfl, hc]
      exact ih h.2

section

variable (hs : Closing s)
include hs

theorem dropWhile_isBlank_append (cs : List Char) :
    (cs ++ s).dropWhile Text.isBlank = cs.dropWhile Text.isBlank ++ s := by
  obtain ⟨rest, rfl, _⟩ := hs
  induction cs with
  | nil => rfl
  | cons c cs ih => by_cases hc : Text.isBlank c <;> simp [hc, ih]

theorem skipVerbose_append (inComment : Bool) (cs : List Char) :
    skipVerbose inComment (cs ++ s) = skipVerbose inComment cs ++ s ∨
      (inComment = true ∨ '#' ∈ cs) ∧ skipVerbose inComment cs = [] ∧
        skipVerbose inComment (cs ++ s) = [] := by
  induction cs generalizing inComment with
  | nil =>
      cases inComment with
      | true => exact .inr ⟨.inl rfl, rfl, skipVerbose_comment hs.not_mem_newline⟩
      | false =>
          obtain ⟨rest, rfl, _⟩ := hs
          exact .inl rfl
  | cons c cs ih =>
      rw [List.cons_append, skipVerbose, skipVerbose]
      split
      next hcomment => exact (ih _).imp_right (And.imp_left fun _ => .inl hcomment)
      next =>
        split
        next =>
          exact (ih _).imp_right (And.imp_left fun h => h.imp nofun (List.mem_cons_of_mem c))
        next =>
          split
          next hc =>
            have hsign : '#' ∈ c :: cs := (beq_iff_eq.1 hc) ▸ List.mem_cons_self
            exact (ih _).imp_right (And.imp_left fun _ => .inr hsign)
          next => exact .inl rfl

theorem skip_append (verbose : Bool) (cs : List Char) :
    skip verbose (cs ++ s) = skip verbose cs ++ s ∨
      '#' ∈ cs ∧ skip verbose cs = [] ∧ skip verbose (cs ++ s) = [] := by
  unfold skip
  split
  · exact (skipVerbose_append hs false cs).imp_right (And.imp_left fun h => h.resolve_left nofun)
  · exact .inl rfl

theorem skip_closing (verbose : Bool) : skip verbose s = s := by
  obtain ⟨rest, rfl, _⟩ := hs
  cases verbose <;> rfl

namespace Extensible

/-- White space before a reader. -/
theorem skip {F : Reader α} (hF : Extensible s P F) (verbose : Bool) :
    Extensible s P fun cs => F (Regex.skip verbose cs) where
  suffix h := (hF.suffix h).trans (skip_suffix _ _)
  extends_append cs := by
    rcases skip_append hs verbose cs with h | ⟨hsign, hnil, h⟩
    · rw [h]; exact hF.extends_suffix (skip_suffix verbose cs)
    · rw [h, hnil]; exact hF.extends_nil hsign

/-- Blanks before a reader. -/
theorem dropWhile_isBlank {F : Reader α} (hF : Extensible s P F) :
    Extensible s P fun cs => F (cs.dropWhile Text.isBlank) where
  suffix h := (hF.suffix h).trans (List.dropWhile_suffix _)
  extends_append cs := by
    rw [dropWhile_isBlank_append hs]
    exact hF.extends_suffix (List.dropWhile_suffix _)

/-- A reader for which something has to come. -/
def needing (fault : Fault) (F : Reader α) : Reader α
  | [] => .error fault
  | c :: cs => F (c :: cs)

/-- White space before a reader, and then something has to come. -/
theorem skipTo {F : Reader α} (hF : Extensible s P F) (hend : ∀ a r, F s = .ok (a, r) → P a r)
    (verbose : Bool) (fault : Fault) :
    Extensible s P fun cs => Regex.skipTo verbose fault cs >>= F := by
  have hF' : Extensible s P (needing fault F) :=
    { suffix := fun {cs a r} h => by
        cases cs with
        | nil => cases h
        | cons c cs => exact hF.suffix h
      extends_append := fun cs => by
        cases cs with
        | nil =>
            obtain ⟨c, rest, rfl⟩ := List.exists_cons_of_ne_nil hs.ne_nil
            exact hend
        | cons c cs => exact hF.extends_append (c :: cs) }
  have hsame : (fun cs => Regex.skipTo verbose fault cs >>= F) =
      fun cs => needing fault F (Regex.skip verbose cs) := by
    funext cs
    unfold Regex.skipTo
    cases Regex.skip verbose cs <;> rfl
  rw [hsame]
  exact hF'.skip hs verbose

/-- White space before a reader that fails itself where there is nothing. -/
theorem skipTo_fail {F : Reader α} (hF : Extensible s P F) (hnil : ∃ e, F [] = .error e)
    (verbose : Bool) (fault : Fault) :
    Extensible s P fun cs => Regex.skipTo verbose fault cs >>= F := by
  refine hF.skipTo hs (fun a r h => ?_) verbose fault
  obtain ⟨e, he⟩ := hnil
  have hend := hF.extends_append []
  rw [he] at hend
  exact hend a r h

/-- White space before a reader that leaves a last part of the continuation at most. -/
theorem skipTo_within {F : Reader α} (hF : Extensible s (Within s) F) (verbose : Bool)
    (fault : Fault) : Extensible s (Within s) fun cs => Regex.skipTo verbose fault cs >>= F :=
  hF.skipTo hs (fun _ _ h => hF.suffix h) verbose fault

end Extensible

end

end StepUp.Regex
