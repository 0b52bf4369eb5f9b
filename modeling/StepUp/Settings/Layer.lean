import StepUp.Json.Basic

/-!
# Layers of settings

Settings come in layers, each an object of the settings that it gives.  A layer is laid over another
by `overlay`: two objects are joined member by member, and of any other two values the upper one
holds.  `find?_overlay` says so for one name.
-/

namespace StepUp.Json

/-! ## Laying values over one another -/

mutual

/-- The value `upper` laid over the value `lower`. -/
def overlay (lower upper : Json) : Json :=
  match lower, upper with
  | .obj l, .obj u => .obj (overlayMembers l u)
  | _, u => u

/-- The members of an upper object laid over those of a lower one. -/
def overlayMembers (lower : List (String × Json)) : (upper : List (String × Json)) →
    List (String × Json)
  | [] => lower
  | (name, v) :: rest =>
    let value :=
      match Text.find? name lower with
      | some w => overlay w v
      | none => v
    overlayMembers (Text.put name value lower) rest

end

/-- The value at the end of a path of names. -/
def atPath (path : List String) (v : Json) : Json :=
  path.foldr (fun name w => .obj [(name, w)]) v

/-! ## What a name has in the joined object -/

theorem ascending_overlayMembers {lower : List (String × Json)} (h : Text.Ascending lower)
    (upper : List (String × Json)) : Text.Ascending (overlayMembers lower upper) := by
  induction upper generalizing lower with
  | nil => simpa [overlayMembers] using h
  | cons e rest ih => simpa only [overlayMembers] using ih (h.put _ _)

/-- Of a name in both objects the values are laid over one another, and any other value stays. -/
theorem find?_overlay {lower upper : List (String × Json)} (hl : Text.Ascending lower)
    (hu : Text.Ascending upper) (name : String) :
    Text.find? name (overlayMembers lower upper) =
      match Text.find? name lower, Text.find? name upper with
      | some w, some v => some (overlay w v)
      | w, v => v.or w := by
  induction upper generalizing lower with
  | nil => cases h : Text.find? name lower <;> simp [overlayMembers, Text.find?, h]
  | cons e rest ih =>
    obtain ⟨k, v⟩ := e
    have hr := List.pairwise_cons.1 hu
    simp only [overlayMembers]
    rw [ih (hl.put _ _) hr.2, Text.find?_put _ _ _ hl]
    by_cases hk : name = k
    · subst hk
      rw [Text.find?_eq_none_of_forall_lt hr.1]
      cases h : Text.find? name lower <;> simp [Text.find?]
    · simp only [hk, if_false, Text.find?]

end StepUp.Json
