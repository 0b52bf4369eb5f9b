/-!
# Lists of entries under ascending keys

A list of key and value pairs whose keys ascend in code point order is the canonical form of a
finite map from texts: two such lists are equal when they answer every look-up alike
(`Ascending.ext`).  Putting an entry replaces the entry of that key or inserts a new one at its
place, so the order is kept.
-/

namespace StepUp.Text

variable {β : Type}

/-- The keys ascend strictly, so no key comes twice. -/
def Ascending (l : List (String × β)) : Prop :=
  l.Pairwise fun a b => a.1 < b.1

instance (l : List (String × β)) : Decidable (Ascending l) :=
  inferInstanceAs (Decidable (l.Pairwise _))

/-- The list with the value under the key, in the place of any value that was there. -/
def put (key : String) (value : β) : List (String × β) → List (String × β)
  | [] => [(key, value)]
  | (k, v) :: rest =>
    if key < k then (key, value) :: (k, v) :: rest
    else if k < key then (k, v) :: put key value rest
    else (key, value) :: rest

/-- The value under a key. -/
def find? (key : String) : List (String × β) → Option β
  | [] => none
  | (k, v) :: rest => if key = k then some v else find? key rest

/-- The entries put one after the other, so that the last of a key stays. -/
def putAll (entries : List (String × β)) : List (String × β) :=
  entries.foldl (fun l e => put e.1 e.2 l) []

theorem Ascending.nodup_keys {l : List (String × β)} (h : Ascending l) : (l.map (·.1)).Nodup := by
  refine List.pairwise_map.2 (List.Pairwise.imp (fun {a b} hlt heq => ?_) h)
  rw [heq] at hlt
  exact String.lt_irrefl b.1 hlt

/-! ## Putting keeps the order -/

theorem mem_put {key : String} {value : β} {l : List (String × β)} {e : String × β}
    (h : e ∈ put key value l) : e = (key, value) ∨ e ∈ l := by
  induction l with
  | nil => simp_all [put]
  | cons a r ih =>
    obtain ⟨k, v⟩ := a
    unfold put at h
    split at h
    · simpa using h
    · split at h
      · rcases List.mem_cons.1 h with rfl | h
        · exact Or.inr List.mem_cons_self
        · exact (ih h).imp id (List.mem_cons_of_mem _)
      · rcases List.mem_cons.1 h with rfl | h
        · exact Or.inl rfl
        · exact Or.inr (List.mem_cons_of_mem _ h)

theorem Ascending.put {l : List (String × β)} (h : Ascending l) (key : String) (value : β) :
    Ascending (put key value l) := by
  induction l with
  | nil => simp [Text.put, Ascending]
  | cons a r ih =>
    obtain ⟨k, v⟩ := a
    have hr := List.pairwise_cons.1 h
    unfold Text.put
    split
    next hlt =>
      refine List.pairwise_cons.2 ⟨fun e he => ?_, h⟩
      rcases List.mem_cons.1 he with rfl | he
      · exact hlt
      · exact String.lt_trans hlt (hr.1 e he)
    next hlt =>
      split
      next hgt =>
        refine List.pairwise_cons.2 ⟨fun e he => ?_, ih hr.2⟩
        rcases mem_put he with rfl | he
        · exact hgt
        · exact hr.1 e he
      next hgt =>
        have hk : key = k := String.le_antisymm hgt hlt
        exact List.pairwise_cons.2 ⟨fun e he => hk ▸ hr.1 e he, hr.2⟩

private theorem ascending_foldl_put (entries l : List (String × β)) (h : Ascending l) :
    Ascending (entries.foldl (fun l e => put e.1 e.2 l) l) := by
  induction entries generalizing l with
  | nil => exact h
  | cons e r ih => exact ih _ (h.put e.1 e.2)

theorem ascending_putAll (entries : List (String × β)) : Ascending (putAll entries) :=
  ascending_foldl_put entries [] List.Pairwise.nil

private theorem mem_foldl_put {entries l : List (String × β)} {e : String × β}
    (h : e ∈ entries.foldl (fun l e => put e.1 e.2 l) l) : e ∈ entries ∨ e ∈ l := by
  induction entries generalizing l with
  | nil => exact Or.inr h
  | cons a r ih =>
    rcases ih h with h | h
    · exact Or.inl (List.mem_cons_of_mem _ h)
    · exact (mem_put h).imp (fun h => List.mem_cons.2 (Or.inl h)) id

theorem mem_of_mem_putAll {entries : List (String × β)} {e : String × β} (h : e ∈ putAll entries) :
    e ∈ entries :=
  (mem_foldl_put h).resolve_right (by simp)

/-! ## Putting as a look-up sees it -/

theorem find?_put (key : String) (value : β) (l : List (String × β)) (h : Ascending l)
    (name : String) :
    find? name (put key value l) = if name = key then some value else find? name l := by
  induction l with
  | nil => simp [put, find?]
  | cons a r ih =>
    obtain ⟨k, v⟩ := a
    have hr := List.pairwise_cons.1 h
    unfold put
    split
    next => simp [find?]
    next hlt =>
      split
      next hgt =>
        have hne : k ≠ key := fun hk => String.lt_irrefl key (hk ▸ hgt)
        by_cases hn : name = k
        · subst hn; simp [find?, hne]
        · simp [find?, hn, ih hr.2]
      next hgt =>
        have hk : key = k := String.le_antisymm hgt hlt
        subst hk
        by_cases hn : name = key <;> simp [find?, hn]

theorem find?_eq_none_of_forall_lt {l : List (String × β)} {name : String}
    (h : ∀ e ∈ l, name < e.1) : find? name l = none := by
  induction l with
  | nil => rfl
  | cons a r ih =>
    have hne : name ≠ a.1 := fun hk => String.lt_irrefl name (by
      have := h a List.mem_cons_self
      rwa [← hk] at this)
    simp only [find?, hne, if_false]
    exact ih fun e he => h e (List.mem_cons_of_mem _ he)

theorem mem_of_find? {l : List (String × β)} {name : String} {value : β}
    (h : find? name l = some value) : (name, value) ∈ l := by
  induction l with
  | nil => cases h
  | cons a r ih =>
    obtain ⟨k, v⟩ := a
    by_cases hk : name = k
    · simp only [find?, hk, if_true, Option.some.injEq] at h
      rw [hk, h]
      exact List.mem_cons_self
    · simp only [find?, hk, if_false] at h
      exact List.mem_cons_of_mem _ (ih h)

theorem Ascending.find?_of_mem {l : List (String × β)} (hl : Ascending l) {e : String × β}
    (h : e ∈ l) : find? e.1 l = some e.2 := by
  induction l with
  | nil => cases h
  | cons a r ih =>
    have hr := List.pairwise_cons.1 hl
    rcases List.mem_cons.1 h with rfl | h
    · simp [find?]
    · have hne : e.1 ≠ a.1 := fun heq => String.lt_irrefl a.1 (heq ▸ hr.1 e h)
      simpa [find?, hne] using ih hr.2 h

/-- A look-up among values that were changed, each as its key says. -/
theorem find?_map {γ : Type} (f : String → β → γ) (l : List (String × β)) (name : String) :
    find? name (l.map fun e => (e.1, f e.1 e.2)) = (find? name l).map (f name) := by
  induction l with
  | nil => rfl
  | cons a r ih =>
    by_cases hk : name = a.1
    · simp [find?, hk]
    · simp [find?, hk, ih]

/-- Two lists in order are equal when they answer every look-up alike. -/
theorem Ascending.ext {l m : List (String × β)} (hl : Ascending l) (hm : Ascending m)
    (h : ∀ name, find? name l = find? name m) : l = m := by
  induction l generalizing m with
  | nil =>
    cases m with
    | nil => rfl
    | cons b s => have := h b.1; simp [find?] at this
  | cons a r ih =>
    cases m with
    | nil => have := h a.1; simp [find?] at this
    | cons b s =>
      have hr := List.pairwise_cons.1 hl
      have hs := List.pairwise_cons.1 hm
      have first : a.1 = b.1 := by
        refine String.le_antisymm (String.not_lt.1 fun hlt => ?_) (String.not_lt.1 fun hlt => ?_)
        · have hb := h b.1
          have hne : b.1 ≠ a.1 := fun hk => String.lt_irrefl a.1 (hk ▸ hlt)
          rw [find?_eq_none_of_forall_lt (l := a :: r) (fun e he => ?_)] at hb
          · simp [find?] at hb
          · rcases List.mem_cons.1 he with rfl | he
            · exact hlt
            · exact String.lt_trans hlt (hr.1 e he)
        · have ha := h a.1
          rw [find?_eq_none_of_forall_lt (l := b :: s) (fun e he => ?_)] at ha
          · simp [find?] at ha
          · rcases List.mem_cons.1 he with rfl | he
            · exact hlt
            · exact String.lt_trans hlt (hs.1 e he)
      have value : a.2 = b.2 := by
        have := h a.1
        simpa [find?, first] using this
      have rest : r = s := by
        refine ih hr.2 hs.2 fun name => ?_
        have hn := h name
        by_cases hna : name = a.1
        · subst hna
          rw [find?_eq_none_of_forall_lt hr.1,
            find?_eq_none_of_forall_lt fun e he => first ▸ hs.1 e he]
        · have hnb : name ≠ b.1 := first ▸ hna
          simpa [find?, hna, hnb] using hn
      rw [rest, show a = b from Prod.ext first value]

/-- Putting the entries of a list in order gives the list back. -/
theorem putAll_of_ascending {l : List (String × β)} (h : Ascending l) : putAll l = l := by
  refine (ascending_putAll l).ext h fun name => ?_
  have key : ∀ (entries acc : List (String × β)), Ascending entries → Ascending acc →
      find? name (entries.foldl (fun l e => put e.1 e.2 l) acc)
        = (find? name entries).or (find? name acc) := by
    intro entries
    induction entries with
    | nil => intro acc _ _; simp [find?]
    | cons e r ih =>
      intro acc he hacc
      have hr := List.pairwise_cons.1 he
      rw [List.foldl_cons, ih _ hr.2 (hacc.put _ _), find?_put _ _ _ hacc]
      by_cases hn : name = e.1
      · subst hn
        simp [find?, find?_eq_none_of_forall_lt hr.1]
      · simp [find?, hn]
  simpa [putAll, find?] using key l [] h List.Pairwise.nil

end StepUp.Text
