import ApiScreens.Proofs.Json.Replacement

/-!
# Leaving out members

The value under a key is changed, or the members of an object are left out whose keys are not wanted.
Other keys have the values that they had.
-/

namespace ApiScreens

namespace Keyed

variable {α : Type} {entries : Keyed α}

theorem get?_filter (keep : String → Bool) (entries : Keyed α) (key : String) :
    get? (entries.filter fun e => keep e.1) key = if keep key then entries.get? key else none := by
  induction entries with
  | nil => simp [get?]
  | cons e rest ih =>
      obtain ⟨k, v⟩ := e
      rw [List.filter_cons]
      by_cases hkey : k = key
      · subst hkey
        split
        · rw [get?_cons, if_pos rfl, get?_cons, if_pos rfl]
        · rw [ih, if_neg ‹_›]
      · split
        · rw [get?_cons, if_neg hkey, ih, get?_cons, if_neg hkey]
        · rw [ih, get?_cons, if_neg hkey]

theorem mem_modify {key : String} {f : α → α} {e : String × α} (h : e ∈ modify key f entries) :
    e ∈ entries ∨ ∃ v, (key, v) ∈ entries ∧ e = (key, f v) := by
  induction entries with
  | nil => contradiction
  | cons first rest ih =>
      obtain ⟨k, v⟩ := first
      rw [modify] at h
      split at h
      · rename_i hkey
        subst hkey
        rcases List.mem_cons.mp h with rfl | h
        · exact Or.inr ⟨v, List.mem_cons_self, rfl⟩
        · exact Or.inl (List.mem_cons_of_mem _ h)
      · rcases List.mem_cons.mp h with rfl | h
        · exact Or.inl List.mem_cons_self
        · rcases ih h with h | ⟨u, hu, rfl⟩
          · exact Or.inl (List.mem_cons_of_mem _ h)
          · exact Or.inr ⟨u, List.mem_cons_of_mem _ hu, rfl⟩

/-- Of entries with ascending keys one is left under each of them. -/
theorem filter_key (h : entries.Ascending) {e : String × α} (he : e ∈ entries) :
    entries.filter (·.1 == e.1) = [e] := by
  apply eq_of_mem_iff (h.filter _) (List.pairwise_singleton _ e)
  intro e'
  rw [List.mem_filter, List.mem_singleton, beq_iff_eq]
  constructor
  · rintro ⟨he', hkey⟩
    have hvalue := (get?_eq_some_iff h).mpr he'
    rw [hkey, (get?_eq_some_iff h).mpr he] at hvalue
    exact Prod.ext hkey (Option.some.inj hvalue).symm
  · rintro rfl
    exact ⟨he, rfl⟩

end Keyed

namespace Json

/-- The members of an object whose keys are wanted; other values as they are. -/
def restrict (keep : String → Bool) : Json → Json
  | object members => object (members.filter fun m => keep m.1)
  | v => v

/-- Changes the value of a key in an object; other values are as they are. -/
def modifyAt (key : String) (f : Json → Json) : Json → Json
  | object members => object (Keyed.modify key f members)
  | v => v

theorem get?_restrict (keep : String → Bool) (v : Json) (key : String) :
    (v.restrict keep).get? key = if keep key then v.get? key else none := by
  cases v with
  | object members => exact Keyed.get?_filter keep members key
  | _ => simp [restrict, get?, members?]

theorem get?_modifyAt (v : Json) (key key' : String) (f : Json → Json) :
    (v.modifyAt key f).get? key' = if key' = key then (v.get? key').map f else v.get? key' := by
  cases v with
  | object members => exact Keyed.get?_modify key key' f members
  | _ => simp [modifyAt, get?, members?]

/-- The child of a value whose members are restricted, if it is left, is the one that was there. -/
theorem child?_restrict (keep : String → Bool) (v : Json) (token : String) :
    (v.restrict keep).child? token = none ∨ (v.restrict keep).child? token = v.child? token := by
  cases v with
  | object members =>
      have hget := Keyed.get?_filter keep members token
      split at hget
      · exact Or.inr hget
      · exact Or.inl hget
  | _ => exact Or.inr rfl

/-- The child of a value in which a key is changed is the changed one or the one that was there. -/
theorem child?_modifyAt (v : Json) (key token : String) (f : Json → Json) :
    token = key ∧ (v.modifyAt key f).child? token = (v.child? token).map f ∨
      (v.modifyAt key f).child? token = v.child? token := by
  cases v with
  | object members =>
      have hget := Keyed.get?_modify key token f members
      split at hget
      · exact Or.inl ⟨‹_›, hget⟩
      · exact Or.inr hget
  | _ => exact Or.inr rfl

end Json

end ApiScreens
