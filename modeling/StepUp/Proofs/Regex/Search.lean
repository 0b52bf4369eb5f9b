import StepUp.Regex.Search
import Mathlib.Data.List.Basic

/-!
# The search finds the matches

`ends` computes the positions at which matches end, for all starting positions at once; `Matches`
says what a match is.  This file shows that they agree (`finds_ends`), so `isMatch` answers whether
there is a match at all (`isMatch_iff`), and between anchors whether the whole text matches
(`isMatch_anchored`).

The search keeps its positions in ascending lists, and an operation on such lists is described by
the relation that it follows (`Finds`).  A repetition without an upper bound is where this needs an
argument: the search takes at most as many rounds as the text has characters, and one more.  A round
that takes no character can be left out (`Times.shorten`), so more rounds find nothing new.
-/

namespace StepUp.Regex

/-- No repetition has its bounds the wrong way round. -/
def Ordered : Regex → Prop
  | empty | chars _ | look _ => True
  | seq a b | alt a b => a.Ordered ∧ b.Ordered
  | rep body min max => body.Ordered ∧ ∀ m ∈ max, min ≤ m

/-! ## Following a relation a number of times -/

section Times

variable {R : Nat → Nat → Prop}

theorem times_zero {i j : Nat} : Times R 0 i j ↔ i = j :=
  ⟨fun h => by cases h; rfl, fun h => h ▸ .zero⟩

theorem times_succ {n i k : Nat} : Times R (n + 1) i k ↔ ∃ j, R i j ∧ Times R n j k :=
  ⟨fun h => by cases h with | succ hij hjk => exact ⟨_, hij, hjk⟩,
    fun ⟨_, hij, hjk⟩ => .succ hij hjk⟩

theorem times_add {m n i k : Nat} : Times R (m + n) i k ↔ ∃ j, Times R m i j ∧ Times R n j k := by
  induction m generalizing i with
  | zero => simp [times_zero]
  | succ m ih =>
      rw [Nat.succ_add, times_succ]
      simp only [ih, times_succ]
      exact ⟨fun ⟨a, ha, j, haj, hjk⟩ => ⟨j, ⟨a, ha, haj⟩, hjk⟩,
        fun ⟨j, ⟨a, ha, haj⟩, hjk⟩ => ⟨a, ha, j, haj, hjk⟩⟩

theorem Times.le (ascends : ∀ i j, R i j → i ≤ j) {n i j : Nat} (h : Times R n i j) : i ≤ j := by
  induction h with
  | zero => exact Nat.le_refl _
  | succ hij _ ih => exact Nat.le_trans (ascends _ _ hij) ih

/-- Of a number of rounds those that take something are enough, and they are at most as many as the
positions that are passed. -/
theorem Times.shorten (ascends : ∀ i j, R i j → i ≤ j) {n i j : Nat} (h : Times R n i j) :
    ∃ m ≤ j - i, Times R m i j := by
  induction h with
  | zero => exact ⟨0, Nat.zero_le _, .zero⟩
  | @succ n i j k hij hjk ih =>
      obtain ⟨m, hm, ht⟩ := ih
      rcases Nat.eq_or_lt_of_le (ascends _ _ hij) with rfl | hlt
      · exact ⟨m, hm, ht⟩
      · have hk : j ≤ k := hjk.le ascends
        exact ⟨m + 1, by omega, .succ hij ht⟩

end Times

/-! ## What a match can take -/

/-- A match ends within the text, unless it takes nothing. -/
theorem bounds_of_matches {text : List Char} {r : Regex} {i j : Nat} (h : Matches text r i j) :
    i ≤ j ∧ (i = j ∨ j ≤ text.length) := by
  induction r generalizing i j with
  | empty => exact ⟨Nat.le_of_eq h, .inl h⟩
  | chars c =>
      obtain ⟨rfl, ch, hch, _⟩ := h
      have hi : i < text.length := (List.getElem?_eq_some_iff.1 hch).1
      exact ⟨Nat.le_succ i, .inr hi⟩
  | look l => exact ⟨Nat.le_of_eq h.1, .inl h.1⟩
  | seq a b iha ihb =>
      obtain ⟨k, ha, hb⟩ := h
      have := iha ha
      have := ihb hb
      omega
  | alt a b iha ihb => exact h.elim iha ihb
  | rep body min max ih =>
      obtain ⟨n, _, _, ht⟩ := h
      clear * - ht ih
      induction ht with
      | zero => exact ⟨Nat.le_refl _, .inl rfl⟩
      | succ hij _ ih' =>
          have := ih hij
          omega

theorem le_of_matches {text : List Char} {r : Regex} (i j : Nat) (h : Matches text r i j) :
    i ≤ j :=
  (bounds_of_matches h).1

/-! ## Ascending lists of positions -/

/-- The list of positions is ascending, and none is listed twice. -/
abbrev Ascending (starts : List Nat) : Prop :=
  starts.Pairwise (· < ·)

theorem ascending_cons {a : Nat} {as : List Nat} :
    Ascending (a :: as) ↔ (∀ x ∈ as, a < x) ∧ Ascending as :=
  List.pairwise_cons

theorem mem_merge {as bs : List Nat} {x : Nat} : x ∈ merge as bs ↔ x ∈ as ∨ x ∈ bs := by
  fun_induction merge as bs with
  | case1 bs => simp
  | case2 as _ => simp
  | case3 a as b bs hlt ih => simp [ih, or_assoc]
  | case4 a as b bs _ hlt ih => simp only [List.mem_cons] at ih ⊢; rw [ih]; tauto
  | case5 a as b bs hle hge ih =>
      have hab : a = b := by omega
      subst hab
      simp only [List.mem_cons, ih]
      tauto

theorem Ascending.merge {as bs : List Nat} (ha : Ascending as) (hb : Ascending bs) :
    Ascending (Regex.merge as bs) := by
  fun_induction Regex.merge as bs with
  | case1 bs => exact hb
  | case2 as _ => exact ha
  | case3 a as b bs hlt ih =>
      rw [ascending_cons] at ha
      refine ascending_cons.2 ⟨fun x hx => ?_, ih ha.2 hb⟩
      rcases mem_merge.1 hx with hx | hx
      · exact ha.1 x hx
      · rcases List.mem_cons.1 hx with rfl | hx
        · exact hlt
        · exact Nat.lt_trans hlt ((ascending_cons.1 hb).1 x hx)
  | case4 a as b bs _ hlt ih =>
      rw [ascending_cons] at hb
      refine ascending_cons.2 ⟨fun x hx => ?_, ih ha hb.2⟩
      rcases mem_merge.1 hx with hx | hx
      · rcases List.mem_cons.1 hx with rfl | hx
        · exact hlt
        · exact Nat.lt_trans hlt ((ascending_cons.1 ha).1 x hx)
      · exact hb.1 x hx
  | case5 a as b bs hle hge ih =>
      have hab : a = b := by omega
      subst hab
      rw [ascending_cons] at ha hb
      refine ascending_cons.2 ⟨fun x hx => ?_, ih ha.2 hb.2⟩
      exact (mem_merge.1 hx).elim (ha.1 x) (hb.1 x)

theorem mem_without {as bs : List Nat} (ha : Ascending as) (hb : Ascending bs) {x : Nat} :
    x ∈ without as bs ↔ x ∈ as ∧ x ∉ bs := by
  fun_induction without as bs with
  | case1 bs => simp
  | case2 as _ => simp
  | case3 a as b bs hlt ih =>
      rw [ascending_cons] at ha
      have hab : a ∉ b :: bs := by
        intro hmem
        rcases List.mem_cons.1 hmem with rfl | hmem
        · omega
        · have := (ascending_cons.1 hb).1 a hmem
          omega
      rw [List.mem_cons, List.mem_cons, ih ha.2 hb]
      constructor
      · rintro (rfl | hx)
        · exact ⟨.inl rfl, hab⟩
        · exact ⟨.inr hx.1, hx.2⟩
      · rintro ⟨rfl | hx, hn⟩
        · exact .inl rfl
        · exact .inr ⟨hx, hn⟩
  | case4 a as b bs _ hlt ih =>
      have hne : ∀ y ∈ a :: as, y ≠ b := by
        intro y hy
        rcases List.mem_cons.1 hy with rfl | hy
        · omega
        · have := (ascending_cons.1 ha).1 y hy
          omega
      rw [ih ha (ascending_cons.1 hb).2, List.mem_cons (a := x) (b := b)]
      exact ⟨fun h => ⟨h.1, fun hx => hx.elim (hne x h.1) h.2⟩,
        fun h => ⟨h.1, fun hx => h.2 (.inr hx)⟩⟩
  | case5 a as b bs hle hge ih =>
      have hab : a = b := by omega
      subst hab
      rw [ascending_cons] at ha hb
      rw [ih ha.2 hb.2, List.mem_cons, List.mem_cons, not_or]
      constructor
      · exact fun h => ⟨.inr h.1, fun hx => Nat.lt_irrefl _ (hx ▸ ha.1 x h.1), h.2⟩
      · exact fun h => ⟨h.1.resolve_left h.2.1, h.2.2⟩

theorem without_sublist (as bs : List Nat) : (without as bs).Sublist as := by
  fun_induction without as bs with
  | case1 => exact .slnil
  | case2 as _ => exact .refl as
  | case3 a as b bs _ ih => exact ih.cons_cons a
  | case4 a as b bs _ _ ih => exact ih
  | case5 a as b bs _ _ ih => exact ih.cons a

theorem Ascending.without {as : List Nat} (ha : Ascending as) (bs : List Nat) :
    Ascending (Regex.without as bs) :=
  ha.sublist (without_sublist as bs)

/-! ## Steps that follow a relation -/

/-- The step takes ascending positions to ascending positions: those that the relation leads to. -/
structure Finds (step : List Nat → List Nat) (R : Nat → Nat → Prop) : Prop where
  ascending : ∀ {starts}, Ascending starts → Ascending (step starts)
  mem_iff : ∀ {starts}, Ascending starts → ∀ {j}, j ∈ step starts ↔ ∃ i ∈ starts, R i j

section Finds

variable {step : List Nat → List Nat} {R : Nat → Nat → Prop}

theorem Finds.stepTimes (h : Finds step R) (n : Nat) : Finds (stepTimes step n) (Times R n) := by
  induction n with
  | zero => exact ⟨id, fun _ => by simp [Regex.stepTimes, times_zero]⟩
  | succ n ih =>
      -- from nowhere nothing is reached, so the early return is right
      have hempty {starts : List Nat} (hs : starts.isEmpty) : starts = [] := by simpa using hs
      constructor
      · intro starts hstarts
        unfold Regex.stepTimes
        split
        · exact .nil
        · exact ih.ascending (h.ascending hstarts)
      · intro starts hstarts k
        unfold Regex.stepTimes
        split
        next hs => simp [hempty hs]
        next =>
          simp only [ih.mem_iff (h.ascending hstarts), h.mem_iff hstarts, times_succ]
          exact ⟨fun ⟨j, ⟨i, hi, hij⟩, hjk⟩ => ⟨i, hi, j, hij, hjk⟩,
            fun ⟨i, hi, j, hij, hjk⟩ => ⟨j, ⟨i, hi, hij⟩, hjk⟩⟩

/-- What has been seen stays where the relation leads, but for what is new. -/
structure Explored (R : Nat → Nat → Prop) (seen new : List Nat) : Prop where
  seen_ascending : Ascending seen
  new_ascending : Ascending new
  new_seen : ∀ i ∈ new, i ∈ seen
  closed : ∀ i ∈ seen, i ∉ new → ∀ j, R i j → j ∈ seen

/-- A round keeps what has been seen explored. -/
theorem Explored.round {seen new : List Nat} (h : Finds step R) (he : Explored R seen new) :
    Explored R (merge seen (without (step new) seen)) (without (step new) seen) where
  seen_ascending := he.seen_ascending.merge ((h.ascending he.new_ascending).without _)
  new_ascending := (h.ascending he.new_ascending).without _
  new_seen i hi := mem_merge.2 (.inr hi)
  closed i hi hnew j hij := by
    have hseen : i ∈ seen := (mem_merge.1 hi).resolve_right hnew
    rw [mem_merge, mem_without (h.ascending he.new_ascending) he.seen_ascending]
    by_cases hj : j ∈ seen
    · exact .inl hj
    · have hinew : i ∈ new := by
        by_contra hold
        exact hj (he.closed i hseen hold j hij)
      exact .inr ⟨(h.mem_iff he.new_ascending).2 ⟨i, hinew, hij⟩, hj⟩

/-- Where nothing is new, nothing more is reached. -/
theorem Explored.mem_of_times {seen : List Nat} (he : Explored R seen []) {n i j : Nat}
    (ht : Times R n i j) (hi : i ∈ seen) : j ∈ seen := by
  induction ht with
  | zero => exact hi
  | succ hij _ ih => exact ih (he.closed _ hi List.not_mem_nil _ hij)

theorem mem_stepUpTo (h : Finds step R) (n : Nat) {seen new : List Nat}
    (he : Explored R seen new) {k : Nat} :
    k ∈ stepUpTo step n seen new ↔ ∃ i ∈ seen, ∃ m ≤ n, Times R m i k := by
  induction n generalizing seen new with
  | zero =>
      unfold stepUpTo
      exact ⟨fun hk => ⟨k, hk, 0, Nat.le_refl 0, .zero⟩,
        fun ⟨i, hi, m, hm, ht⟩ => by cases Nat.le_zero.1 hm; cases ht; exact hi⟩
  | succ n ih =>
      unfold stepUpTo
      split
      next hnew =>
        obtain rfl : new = [] := by simpa using hnew
        exact ⟨fun hk => ⟨k, hk, 0, Nat.zero_le _, .zero⟩,
          fun ⟨i, hi, m, _, ht⟩ => he.mem_of_times ht hi⟩
      next =>
        rw [ih (he.round h)]
        have hnext {j : Nat} : j ∈ without (step new) seen ↔ (∃ i ∈ new, R i j) ∧ j ∉ seen := by
          rw [mem_without (h.ascending he.new_ascending) he.seen_ascending,
            h.mem_iff he.new_ascending]
        constructor
        · rintro ⟨j, hj, m, hm, ht⟩
          rcases mem_merge.1 hj with hj | hj
          · exact ⟨j, hj, m, Nat.le_succ_of_le hm, ht⟩
          · obtain ⟨⟨i, hi, hij⟩, _⟩ := hnext.1 hj
            exact ⟨i, he.new_seen i hi, m + 1, Nat.succ_le_succ hm, .succ hij ht⟩
        · rintro ⟨i, hi, m, hm, ht⟩
          cases ht with
          | zero => exact ⟨k, mem_merge.2 (.inl hi), 0, Nat.zero_le _, .zero⟩
          | @succ m i j k hij hjk =>
              refine ⟨j, ?_, m, Nat.le_of_succ_le_succ hm, hjk⟩
              -- the first position after `i` is seen already, or it is what this round finds
              by_cases hj : j ∈ seen
              · exact mem_merge.2 (.inl hj)
              · have hinew : i ∈ new := by
                  by_contra hold
                  exact hj (he.closed i hi hold j hij)
                exact mem_merge.2 (.inr (hnext.2 ⟨⟨i, hinew, hij⟩, hj⟩))

theorem ascending_stepUpTo (h : Finds step R) (n : Nat) {seen new : List Nat}
    (he : Explored R seen new) : Ascending (stepUpTo step n seen new) := by
  induction n generalizing seen new with
  | zero => exact he.seen_ascending
  | succ n ih =>
      unfold stepUpTo
      split
      · exact he.seen_ascending
      · exact ih (he.round h)

/-- Rounds up to a number, on from where a number of rounds has led. -/
theorem Finds.between (h : Finds step R) (least more : Nat) :
    Finds (fun starts =>
        stepUpTo step more (Regex.stepTimes step least starts)
          (Regex.stepTimes step least starts))
      (fun i j => ∃ m ≤ more, Times R (least + m) i j) := by
  have hfirst := h.stepTimes least
  have hexplored {starts} (hs : Ascending starts) :
      Explored R (Regex.stepTimes step least starts) (Regex.stepTimes step least starts) :=
    ⟨hfirst.ascending hs, hfirst.ascending hs, fun _ => id, fun _ hi hn => absurd hi hn⟩
  constructor
  · exact fun hs => ascending_stepUpTo h more (hexplored hs)
  · intro starts hs k
    simp only [mem_stepUpTo h more (hexplored hs), hfirst.mem_iff hs, times_add]
    exact ⟨fun ⟨j, ⟨i, hi, hij⟩, m, hm, hjk⟩ => ⟨i, hi, m, hm, j, hij, hjk⟩,
      fun ⟨i, hi, m, hm, j, hij, hjk⟩ => ⟨j, ⟨i, hi, hij⟩, m, hm, hjk⟩⟩

theorem Finds.congr {R' : Nat → Nat → Prop} (h : Finds step R) (hR : ∀ i j, R i j ↔ R' i j) :
    Finds step R' := by
  obtain rfl : R = R' := funext fun i => funext fun j => propext (hR i j)
  exact h

end Finds

/-! ## The search -/

/-- A repetition is found by the rounds that the search takes. -/
theorem matches_rep_iff {text : List Char} {body : Regex} {min : Nat} {max : Option Nat}
    (bounds : ∀ m ∈ max, min ≤ m) (i j : Nat) :
    Matches text (rep body min max) i j ↔
      ∃ m ≤ max.elim (text.length + 1) (· - min), Times (Matches text body) (min + m) i j := by
  cases max with
  | some most =>
      have hle : min ≤ most := bounds most rfl
      constructor
      · rintro ⟨n, hmin, hmax, ht⟩
        have hn : n ≤ most := hmax most rfl
        exact ⟨n - min, by simp only [Option.elim]; omega, by rwa [Nat.add_sub_cancel' hmin]⟩
      · rintro ⟨m, hm, ht⟩
        simp only [Option.elim] at hm
        refine ⟨min + m, Nat.le_add_right .., fun b hb => ?_, ht⟩
        cases hb
        omega
  | none =>
      constructor
      · rintro ⟨n, hmin, _, ht⟩
        rw [← Nat.add_sub_cancel' hmin, times_add] at ht
        obtain ⟨k, hik, hkj⟩ := ht
        obtain ⟨m, hm, hshort⟩ := hkj.shorten le_of_matches
        refine ⟨m, ?_, times_add.2 ⟨k, hik, hshort⟩⟩
        -- at most the text lies between the two positions
        have hbounds := bounds_of_matches (r := rep body 0 none) (i := k) (j := j)
          ⟨m, Nat.zero_le m, by simp, hshort⟩
        simp only [Option.elim]
        omega
      · rintro ⟨m, _, ht⟩
        exact ⟨min + m, Nat.le_add_right .., by simp, ht⟩

/-- The search follows the matches of an expression. -/
theorem finds_ends {text : List Char} {r : Regex} (hr : r.Ordered) :
    Finds (ends text.toArray r) (Matches text r) := by
  induction r with
  | empty => exact ⟨id, fun _ => by simp [ends, Matches]⟩
  | chars c =>
      have htest (i : Nat) : (text.toArray[i]?.any c.contains) = true ↔
          ∃ ch, text[i]? = some ch ∧ c.contains ch = true := by
        rw [List.getElem?_toArray]
        cases text[i]? <;> simp
      constructor
      · intro starts hs
        unfold ends
        refine List.Pairwise.filterMap _ (fun i i' hlt j hj j' hj' => ?_) hs
        simp only [Option.ite_none_right_eq_some, Option.some.injEq] at hj hj'
        omega
      · intro starts hs j
        simp only [ends, List.mem_filterMap, Option.ite_none_right_eq_some, htest,
          Option.some.injEq, Matches]
        exact ⟨fun ⟨i, hi, hch, hj⟩ => ⟨i, hi, hj.symm, hch⟩,
          fun ⟨i, hi, hj, hch⟩ => ⟨i, hi, hch, hj.symm⟩⟩
  | look l =>
      constructor
      · exact fun hs => hs.filter _
      · intro starts hs j
        simp only [ends, List.mem_filter, List.getElem?_toArray, Matches, before]
        exact ⟨fun ⟨hj, hl⟩ => ⟨j, hj, rfl, hl⟩, fun ⟨i, hi, hij, hl⟩ => hij ▸ ⟨hi, hl⟩⟩
  | seq a b iha ihb =>
      have ha := iha hr.1
      have hb := ihb hr.2
      constructor
      · exact fun hs => hb.ascending (ha.ascending hs)
      · intro starts hs k
        simp only [ends, hb.mem_iff (ha.ascending hs), ha.mem_iff hs, Matches]
        exact ⟨fun ⟨j, ⟨i, hi, hij⟩, hjk⟩ => ⟨i, hi, j, hij, hjk⟩,
          fun ⟨i, hi, j, hij, hjk⟩ => ⟨j, ⟨i, hi, hij⟩, hjk⟩⟩
  | alt a b iha ihb =>
      have ha := iha hr.1
      have hb := ihb hr.2
      constructor
      · exact fun hs => (ha.ascending hs).merge (hb.ascending hs)
      · intro starts hs j
        simp only [ends, mem_merge, ha.mem_iff hs, hb.mem_iff hs, Matches, and_or_left,
          exists_or]
  | rep body min max ih =>
      have hrounds := (ih hr.1).between min (max.elim (text.length + 1) (· - min))
      have hends : ends text.toArray (rep body min max) = fun starts =>
          stepUpTo (ends text.toArray body) (max.elim (text.length + 1) (· - min))
            (stepTimes (ends text.toArray body) min starts)
            (stepTimes (ends text.toArray body) min starts) := by
        funext starts
        cases max <;> simp [ends]
      rw [hends]
      exact hrounds.congr fun i j => (matches_rep_iff hr.2 i j).symm

/-- The search answers whether some part of the text matches. -/
theorem isMatch_iff {r : Regex} (hr : r.Ordered) (text : String) :
    r.isMatch text = true ↔ ∃ i ≤ text.toList.length, ∃ j, Matches text.toList r i j := by
  have hmem {j : Nat} : j ∈ ends text.toList.toArray r (List.range (text.toList.length + 1)) ↔
      ∃ i ≤ text.toList.length, Matches text.toList r i j := by
    rw [(finds_ends hr).mem_iff List.pairwise_lt_range]
    simp only [List.mem_range, Nat.lt_succ_iff]
  simp only [isMatch, List.size_toArray, Bool.not_eq_true', List.isEmpty_eq_false_iff_exists_mem,
    hmem]
  exact ⟨fun ⟨j, i, hi, hij⟩ => ⟨i, hi, j, hij⟩, fun ⟨i, hi, j, hij⟩ => ⟨j, i, hi, hij⟩⟩

/-- Between the anchors of the text an expression matches all of it. -/
theorem isMatch_anchored {r : Regex} (hr : r.Ordered) (text : String) :
    (seq (look .textStart) (seq r (look .textEnd))).isMatch text = true ↔
      Matches text.toList r 0 text.toList.length := by
  have hordered : (seq (look .textStart) (seq r (look .textEnd))).Ordered := ⟨trivial, hr, trivial⟩
  rw [isMatch_iff hordered]
  constructor
  · rintro ⟨i, hi, j, i', ⟨rfl, hstart⟩, j', hmatch, ⟨rfl, hend⟩⟩
    have hzero : i = 0 := by
      by_contra hpos
      have hbefore : before text.toList i = none := by simpa [Look.holds] using hstart
      simp only [before, hpos, if_false, List.getElem?_eq_none_iff] at hbefore
      omega
    have hlast : text.toList.length ≤ j' := by simpa [Look.holds] using hend
    have hbounds := bounds_of_matches hmatch
    obtain rfl : j' = text.toList.length := by omega
    exact hzero ▸ hmatch
  · intro hmatch
    exact ⟨0, Nat.zero_le _, _, 0, ⟨rfl, by simp [Look.holds, before]⟩, _, hmatch, rfl,
      by simp [Look.holds]⟩

end StepUp.Regex
