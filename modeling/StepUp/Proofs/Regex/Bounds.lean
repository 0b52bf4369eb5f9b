import StepUp.Proofs.Regex.Group
import StepUp.Proofs.Regex.Search
import StepUp.Regex.Lowering

/-!
# The bounds of repetitions

A counted repetition is only read with its bounds in order (`readCount_bounds`), the signs for
repetitions have theirs in order, and taking flags into account changes no bound.  So every
expression that a text writes is ordered (`ordered_of_compile`), which is what the search relies on.
-/

namespace StepUp.Regex

open Outcome (bind_eq_ok)

mutual

/-- No repetition of a pattern has its bounds the wrong way round. -/
def Tree.Ordered : Tree → Prop
  | .repetition body min max => body.Ordered ∧ ∀ m ∈ max, min ≤ m
  | .capture body => body.Ordered
  | .group _ body => body.Ordered
  | .alternation branches => Tree.AllOrdered branches
  | .sequence items => Tree.AllOrdered items
  | _ => True

/-- No repetition of some patterns has its bounds the wrong way round. -/
def Tree.AllOrdered : List Tree → Prop
  | [] => True
  | t :: rest => t.Ordered ∧ Tree.AllOrdered rest

end

theorem Tree.allOrdered_iff {ts : List Tree} : Tree.AllOrdered ts ↔ ∀ t ∈ ts, t.Ordered := by
  induction ts with
  | nil => simp [Tree.AllOrdered]
  | cons t rest ih => simp [Tree.AllOrdered, ih]

/-! ## Reading -/

theorem Tree.ordered_ofItems {items : List Tree} (h : ∀ t ∈ items, t.Ordered) :
    (Tree.ofItems items).Ordered := by
  match items with
  | [] => trivial
  | [item] => exact h item (List.mem_singleton_self item)
  | _ :: _ :: _ => exact Tree.allOrdered_iff.2 h

theorem Tree.ordered_ofBranches {branches : List Tree} (h : ∀ t ∈ branches, t.Ordered) :
    (Tree.ofBranches branches).Ordered := by
  match branches with
  | [] => trivial
  | [branch] => exact h branch (List.mem_singleton_self branch)
  | _ :: _ :: _ => exact Tree.allOrdered_iff.2 h

/-- What has been read of a group is ordered. -/
structure Progress.Ordered (p : Progress) : Prop where
  items : ∀ t ∈ p.items, t.Ordered
  branches : ∀ t ∈ p.branches, t.Ordered

namespace Progress

variable {p : Progress}

theorem ordered_nil (names : List String) : Ordered { names } :=
  ⟨nofun, nofun⟩

theorem Ordered.push (h : p.Ordered) {t : Tree} (ht : t.Ordered) : (p.push t).Ordered :=
  ⟨List.forall_mem_cons.2 ⟨ht, h.items⟩, h.branches⟩

theorem Ordered.branch (h : p.Ordered) : (Tree.ofItems p.items.reverse).Ordered :=
  Tree.ordered_ofItems fun t ht => h.items t (List.mem_reverse.1 ht)

theorem Ordered.tree (h : p.Ordered) : p.tree.Ordered := by
  refine Tree.ordered_ofBranches fun t ht => ?_
  rcases List.mem_cons.1 (List.mem_reverse.1 ht) with rfl | ht
  · exact h.branch
  · exact h.branches t ht

end Progress

/-- What a round comes to keeps the bounds of repetitions in order. -/
def GroupStep.Ordered : GroupStep → Prop
  | .done => True
  | .next _ p => p.Ordered
  | .enter _ _ make => ∀ t : Tree, t.Ordered → (make t).Ordered

/-- The bounds of a counted repetition are read in their order only. -/
theorem readCount_bounds {verbose : Bool} {cs r : List Char} {min : Nat} {max : Option Nat}
    (h : readCount verbose cs = .ok ((min, max), r)) : ∀ m ∈ max, min ≤ m := by
  rw [readCount_eq] at h
  obtain ⟨_, _, h⟩ := bind_eq_ok.1 h
  obtain ⟨⟨first, after⟩, _, h⟩ := bind_eq_ok.1 h
  cases first with
  | none => cases h
  | some n =>
      obtain ⟨⟨bounds, rest⟩, _, h⟩ := bind_eq_ok.1 h
      dsimp only at h
      unfold boundsEnd at h
      split at h
      · split at h
        next hbounds =>
          cases h
          simpa [Option.all_eq_true] using hbounds
        · cases h
      · cases h

section

variable {verbose : Bool} {p : Progress}

theorem repeated_ordered (h : p.Ordered) {item : Tree} {before : List Tree}
    (hitem : repeated p.items = .ok (item, before)) :
    item.Ordered ∧ ∀ t ∈ before, t.Ordered := by
  unfold repeated at hitem
  split at hitem
  · cases hitem
  · cases hitem
  · cases hitem
  next item before heq =>
    cases hitem
    have := h.items
    rw [heq] at this
    exact List.forall_mem_cons.1 this

/-- A repetition with its bounds in order, in place of the item that it repeats. -/
theorem Progress.Ordered.repetition (h : p.Ordered) {item : Tree} {before : List Tree}
    (hitem : repeated p.items = .ok (item, before)) {min : Nat} {max : Option Nat}
    (bounds : ∀ m ∈ max, min ≤ m) :
    Progress.Ordered { p with items := .repetition item min max :: before } := by
  obtain ⟨hrep, hbefore⟩ := repeated_ordered h hitem
  exact ⟨List.forall_mem_cons.2 ⟨⟨hrep, bounds⟩, hbefore⟩, h.branches⟩

theorem repeatItem_ordered (h : p.Ordered) {min : Nat} {max : Option Nat}
    (bounds : ∀ m ∈ max, min ≤ m) {cs r : List Char} {step : GroupStep}
    (hstep : repeatItem verbose p min max cs = .ok (step, r)) : step.Ordered := by
  obtain ⟨⟨item, before⟩, hitem, hstep⟩ := bind_eq_ok.1 hstep
  cases hstep
  exact h.repetition hitem bounds

theorem groupOpening_ordered (h : p.Ordered) {start : GroupStart} {cs r : List Char}
    {step : GroupStep} (hstep : groupOpening verbose p start cs = .ok (step, r)) :
    step.Ordered := by
  match start with
  | .flags changes =>
      cases hstep
      exact h.push trivial
  | .capture none =>
      cases hstep
      exact fun _ => id
  | .capture (some name) =>
      simp only [groupOpening] at hstep
      split at hstep
      · cases hstep
      · cases hstep
        exact fun _ => id
  | .group changes =>
      cases hstep
      exact fun _ => id

/-- A round keeps the bounds of repetitions in order. -/
theorem groupStep_ordered (h : p.Ordered) {cs r : List Char} {step : GroupStep}
    (hstep : groupStep verbose p cs = .ok (step, r)) : step.Ordered := by
  unfold groupStep at hstep
  split at hstep
  · cases hstep
    trivial
  next c rest _ =>
    split at hstep
    · cases hstep
      trivial
    · unfold groupTurn at hstep
      split at hstep
      · obtain ⟨_, _, hstep⟩ := bind_eq_ok.1 hstep
        exact groupOpening_ordered h hstep
      · cases hstep
        exact ⟨nofun, List.forall_mem_cons.2 ⟨h.branch, h.branches⟩⟩
      · obtain ⟨_, _, hstep⟩ := bind_eq_ok.1 hstep
        obtain ⟨_, _, hstep⟩ := bind_eq_ok.1 hstep
        cases hstep
        exact h.push trivial
      · exact repeatItem_ordered h (by simp) hstep
      · exact repeatItem_ordered h (by simp) hstep
      · exact repeatItem_ordered h (by simp) hstep
      · obtain ⟨⟨item, before⟩, hitem, hstep⟩ := bind_eq_ok.1 hstep
        obtain ⟨⟨⟨min, max⟩, after⟩, hcount, hstep⟩ := bind_eq_ok.1 hstep
        cases hstep
        exact h.repetition hitem (readCount_bounds hcount)
      · obtain ⟨⟨e, after⟩, _, hstep⟩ := bind_eq_ok.1 hstep
        cases hstep
        refine h.push ?_
        cases e <;> trivial
      all_goals
        cases hstep
        exact h.push trivial

/-- A group that is read is ordered, if what has been read of it before is. -/
theorem readTree_ordered (h : p.Ordered) {fuel : Nat} {cs r : List Char} {t : Tree}
    {names : List String} (ht : readTree verbose p fuel cs = .ok ((t, names), r)) : t.Ordered := by
  induction fuel generalizing verbose p cs t names r with
  | zero => cases ht
  | succ fuel ih =>
      rw [readTree_succ_fuel] at ht
      obtain ⟨⟨step, rest⟩, hstep, ht⟩ := bind_eq_ok.1 ht
      have hordered := groupStep_ordered h hstep
      cases step with
      | done =>
          cases ht
          exact h.tree
      | next verbose p => exact ih hordered ht
      | enter inner start make =>
          obtain ⟨⟨⟨body, found⟩, after⟩, hbody, ht⟩ := bind_eq_ok.1 ht
          have hmake := hordered body (ih (Progress.ordered_nil start) hbody)
          have hnext : Progress.Ordered { p.push (make body) with names := found } :=
            ⟨(h.push hmake).items, (h.push hmake).branches⟩
          dsimp only at ht
          unfold afterBracket at ht
          split at ht
          · cases ht
          · split at ht
            · exact ih hnext ht
            · cases ht

end

/-! ## Lowering -/

theorem Ordered.iterate {body : Regex} (h : body.Ordered) {least : Nat} {most : Option Nat}
    (bounds : ∀ m ∈ most, least ≤ m) : (body.iterate least most).Ordered := by
  unfold Regex.iterate
  split
  · refine ⟨h, fun m hm => ?_⟩
    cases hm
    cases most with
    | none => exact Nat.min_le_right _ _
    | some m =>
        have := bounds m rfl
        simp only [Option.getD_some]
        omega
  · exact ⟨h, bounds⟩

section

variable [Dialect]

mutual

/-- Flags change no bound. -/
theorem Tree.toRegex_ordered {f f' : Flags} {r : Regex} :
    (t : Tree) → t.Ordered → t.toRegex f = .ok (r, f') → r.Ordered
  | .empty, _, h => by cases h; trivial
  | .flags _, _, h => by cases h; trivial
  | .literal l, _, h => by
      obtain ⟨c, _, h⟩ := bind_eq_ok.1 h
      cases h
      trivial
  | .dot, _, h => by
      obtain ⟨c, _, h⟩ := bind_eq_ok.1 h
      cases h
      trivial
  | .assertion _, _, h => by cases h; trivial
  | .set s, _, h => by
      obtain ⟨c, _, h⟩ := bind_eq_ok.1 h
      cases h
      trivial
  | .repetition body min max, ht, h => by
      obtain ⟨⟨b, _⟩, hb, h⟩ := bind_eq_ok.1 h
      cases h
      exact (Tree.toRegex_ordered body ht.1 hb).iterate ht.2
  | .capture body, ht, h => by
      obtain ⟨⟨b, _⟩, hb, h⟩ := bind_eq_ok.1 h
      cases h
      exact Tree.toRegex_ordered body ht hb
  | .group _ body, ht, h => by
      obtain ⟨⟨b, _⟩, hb, h⟩ := bind_eq_ok.1 h
      cases h
      exact Tree.toRegex_ordered body ht hb
  | .alternation branches, ht, h => Tree.toAlternation_ordered branches ht h
  | .sequence items, ht, h => Tree.toSequence_ordered items ht h

theorem Tree.toSequence_ordered {f f' : Flags} {r : Regex} :
    (items : List Tree) → Tree.AllOrdered items → Tree.toSequence f items = .ok (r, f') →
      r.Ordered
  | [], _, h => by cases h; trivial
  | [t], ht, h => Tree.toRegex_ordered t ht.1 h
  | t :: u :: rest, ht, h => by
      obtain ⟨⟨a, _⟩, ha, h⟩ := bind_eq_ok.1 h
      obtain ⟨⟨b, _⟩, hb, h⟩ := bind_eq_ok.1 h
      cases h
      exact ⟨Tree.toRegex_ordered t ht.1 ha, Tree.toSequence_ordered (u :: rest) ht.2 hb⟩

theorem Tree.toAlternation_ordered {f f' : Flags} {r : Regex} :
    (branches : List Tree) → Tree.AllOrdered branches →
      Tree.toAlternation f branches = .ok (r, f') → r.Ordered
  | [], _, h => by cases h; trivial
  | [t], ht, h => Tree.toRegex_ordered t ht.1 h
  | t :: u :: rest, ht, h => by
      obtain ⟨⟨a, _⟩, ha, h⟩ := bind_eq_ok.1 h
      obtain ⟨⟨b, _⟩, hb, h⟩ := bind_eq_ok.1 h
      cases h
      exact ⟨Tree.toRegex_ordered t ht.1 ha, Tree.toAlternation_ordered (u :: rest) ht.2 hb⟩

end

end

end StepUp.Regex
