import StepUp.Proofs.Ranking.Order

/-!
# The strongest request

What the ranking makes of a list of requests, whatever comes in it and however often
(`Registry.strongest_of_list`):

* the first method that is not registered is reported, if there is one;
* otherwise the first of the requests of least place is honored, and none only of the empty list;
* of requests for one target the same one is honored in whatever order they come.

Requests of one place need not be equal, since their targets may differ.  So it matters which of
them comes first, and without a common target the order of the list can show in the answer.
-/

namespace StepUp.Registry

variable {reg : Registry} {l : List MethodRequest} {r : MethodRequest}

/-- No request of the list has a lesser place: by the rank of the method, then by its name in code
point order, then by the source. -/
def IsLeast (reg : Registry) (l : List MethodRequest) (r : MethodRequest) : Prop :=
  ∀ q ∈ l, reg.place r ≤ reg.place q

/-- The method of a request is not registered. -/
def Unregistered (reg : Registry) (r : MethodRequest) : Prop :=
  reg.contains r.method = false

instance : DecidablePred reg.Unregistered :=
  fun r => inferInstanceAs (Decidable (reg.contains r.method = false))

/-- The first of the strongest requests is the first of the list that has the least place. -/
theorem isFirstStrongest_iff : reg.IsFirstStrongest l r ↔ IsFirst (reg.IsLeast l) l r := by
  constructor
  · intro h
    obtain ⟨before, after, hl, hnew⟩ := List.eq_append_cons_of_mem h.mem
    refine ⟨before, after, hl, h.le, fun q hq hleast => ?_⟩
    have hlater := h.first q (hl ▸ List.mem_append_left _ hq) (hleast r h.mem)
    rw [hl, List.idxOf_append_of_notMem hnew, List.idxOf_append_of_mem hq] at hlater
    have hearlier : before.idxOf q < before.length := List.idxOf_lt_length_iff.2 hq
    omega
  · rintro ⟨before, after, rfl, hleast, hbefore⟩
    have hnew : r ∉ before := fun hr => hbefore r hr hleast
    refine ⟨⟨by simp, hleast⟩, fun q _ hle => ?_⟩
    have hq : q ∉ before := fun hq => hbefore q hq fun p hp => hle.trans (hleast p hp)
    rw [List.idxOf_append_of_notMem hnew, List.idxOf_append_of_notMem hq, List.idxOf_cons_self]
    exact Nat.add_le_add_left (Nat.zero_le _) _

theorem strongest_eq_error_iff_isFirst {e : ServiceError} :
    reg.strongest l = .error e ↔
      ∃ r, IsFirst reg.Unregistered l r ∧ e = .unregisteredMethod r.method := by
  have htest : (fun q : MethodRequest => !reg.contains q.method) =
      fun q => decide (reg.Unregistered q) := by
    funext q
    cases hq : reg.contains q.method <;> simp [Unregistered, hq]
  simp only [strongest_eq_error_iff, htest, find?_eq_some_iff_isFirst]

theorem strongest_fails_iff : (∃ e, reg.strongest l = .error e) ↔ ∃ r ∈ l, reg.Unregistered r := by
  constructor
  · rintro ⟨e, he⟩
    obtain ⟨r, ⟨before, after, rfl, hr, -⟩, -⟩ := strongest_eq_error_iff_isFirst.1 he
    exact ⟨r, by simp, hr⟩
  · rintro ⟨r, hr, hmissing⟩
    cases h : reg.strongest l with
    | error e => exact ⟨e, rfl⟩
    | ok o =>
        have hregistered := (strongest_eq_ok_iff.1 h).1 r hr
        rw [hmissing] at hregistered
        cases hregistered

theorem strongest_eq_none_iff (hl : ∀ q ∈ l, reg.contains q.method = true) :
    reg.strongest l = .ok none ↔ l = [] := by
  rw [strongest_of_registered hl, Except.ok.injEq, List.argmin_eq_none]

/-- Of any list the ranking reports the first method that is not registered.  If all are it honors
nothing of the empty list and else the first request of least place, and of requests for one target
it honors the same one in any order. -/
theorem strongest_of_list (reg : Registry) (l : List MethodRequest) :
    ((∃ e, reg.strongest l = .error e) ↔ ∃ r ∈ l, reg.Unregistered r) ∧
    (∀ e, reg.strongest l = .error e ↔
      ∃ r, IsFirst reg.Unregistered l r ∧ e = .unregisteredMethod r.method) ∧
    ((∀ q ∈ l, reg.contains q.method = true) →
      (reg.strongest l = .ok none ↔ l = []) ∧
      (∀ r, reg.strongest l = .ok (some r) ↔ IsFirst (reg.IsLeast l) l r) ∧
      ((∀ r ∈ l, ∀ q ∈ l, r.target = q.target) →
        ∀ m, l.Perm m → reg.strongest m = reg.strongest l)) := by
  refine ⟨strongest_fails_iff, fun e => strongest_eq_error_iff_isFirst, fun hl => ?_⟩
  refine ⟨strongest_eq_none_iff hl, fun r => ?_, fun htarget m hperm => ?_⟩
  · rw [strongest_eq_some_iff, isFirstStrongest_iff]
    exact and_iff_right hl
  · exact strongest_perm hl htarget hperm

/-- Three equally strong requests for two methods, two of them for one method, among weaker ones.
The name settles the tie between the methods and the source the one that is left, in both orders. -/
theorem duo_of_principal_strongest :
    let reg : Registry := ⟨[⟨"yubikey", 1⟩, ⟨"otp", 2⟩, ⟨"duo", 1⟩], by decide⟩
    let best : MethodRequest := ⟨"duo", "svc", .principalAttribute⟩
    let l : List MethodRequest := [⟨"otp", "svc", .requestParam⟩, ⟨"yubikey", "svc", .requestParam⟩,
      ⟨"duo", "svc", .serviceDefinition⟩, best, best]
    let m : List MethodRequest := [best, ⟨"duo", "svc", .serviceDefinition⟩, best,
      ⟨"yubikey", "svc", .requestParam⟩, ⟨"otp", "svc", .requestParam⟩]
    (∀ q ∈ l, reg.contains q.method = true) ∧ (∀ r ∈ l, ∀ q ∈ l, r.target = q.target) ∧ l.Perm m ∧
      IsFirst (reg.IsLeast l) l best ∧ reg.strongest m = .ok (some best) := by
  intro reg best l m
  have hl : ∀ q ∈ l, reg.contains q.method = true := by decide
  have htarget : ∀ r ∈ l, ∀ q ∈ l, r.target = q.target := by decide
  have hperm : l.Perm m := by decide
  have hbest : reg.strongest l = .ok (some best) := by rfl
  obtain ⟨-, hfirst, hany⟩ := (strongest_of_list reg l).2.2 hl
  exact ⟨hl, htarget, hperm, (hfirst best).1 hbest, (hany htarget m hperm).trans hbest⟩

end StepUp.Registry
