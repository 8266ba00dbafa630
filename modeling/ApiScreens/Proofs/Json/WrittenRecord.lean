import ApiScreens.Proofs.Json.ReadBack
import ApiScreens.Proofs.Json.RecordForm

/-!
# Writing records

An object with all required members of a declaration and some of its optional ones, its members
sorted, writes a record with these entries.
-/

namespace ApiScreens

namespace Keyed

variable {α : Type} {key : String} {value : α} {entries : Keyed α}

theorem get?_insert_self (entries : Keyed α) :
    get? (insert key value entries) key = some value := by
  induction entries with
  | nil => exact get?_cons_self
  | cons first rest ih =>
      rw [insert]
      split
      · exact get?_cons_self
      · split
        · exact get?_cons_self
        · rename_i hne
          rw [get?_cons_of_ne hne, ih]

theorem get?_insert_of_ne {other : String} (h : other ≠ key) (entries : Keyed α) :
    get? (insert key value entries) other = entries.get? other := by
  induction entries with
  | nil => exact get?_cons_of_ne h
  | cons first rest ih =>
      rw [insert]
      split
      · exact get?_cons_of_ne h
      · split
        · rename_i heq
          rw [get?_cons_of_ne h, get?_cons_of_ne (heq ▸ h)]
        · by_cases hfirst : other = first.1
          · subst hfirst
            rw [get?_cons_self, get?_cons_self]
          · rw [get?_cons_of_ne hfirst, get?_cons_of_ne hfirst, ih]

theorem get?_append (entries later : Keyed α) :
    get? (entries ++ later) key = (entries.get? key).or (later.get? key) := by
  rw [get?, List.find?_append, Option.map_or]
  rfl

theorem get?_insert (e : String × α) (entries : Keyed α) :
    get? (insert e.1 e.2 entries) key = (get? [e] key).or (entries.get? key) := by
  by_cases hkey : key = e.1
  · subst hkey
    rw [get?_insert_self, get?_cons_self]
    rfl
  · rw [get?_insert_of_ne hkey, get?_cons_of_ne hkey]
    rfl

theorem get?_foldl_insert (entries sorted : Keyed α) :
    get? (entries.foldl (fun sorted e => insert e.1 e.2 sorted) sorted) key =
      (get? entries.reverse key).or (sorted.get? key) := by
  induction entries generalizing sorted with
  | nil => rfl
  | cons e rest ih =>
      rw [List.foldl_cons, ih, get?_insert, ← Option.or_assoc, ← get?_append, List.reverse_cons]

/-- Sorting entries keeps the last of those under each key. -/
theorem get?_sort_eq_get?_reverse (entries : Keyed α) :
    (sort entries).get? key = get? entries.reverse key := by
  rw [sort, get?_foldl_insert]
  exact Option.or_none

theorem get?_eq_some_of_mem (hnodup : (entries.map Prod.fst).Nodup) (h : (key, value) ∈ entries) :
    entries.get? key = some value := by
  induction entries with
  | nil => contradiction
  | cons e rest ih =>
      obtain ⟨hnew, hnodup⟩ := List.nodup_cons.mp hnodup
      rcases List.mem_cons.mp h with rfl | h
      · exact get?_cons_self
      · have hne : key ≠ e.1 := by
          rintro rfl
          exact hnew (List.mem_map.mpr ⟨_, h, rfl⟩)
        rw [get?_cons_of_ne hne, ih hnodup h]

/-- Sorting entries with different keys keeps what stands under each key. -/
theorem get?_sort (hnodup : (entries.map Prod.fst).Nodup) :
    (sort entries).get? key = entries.get? key := by
  have hreverse : (entries.reverse.map Prod.fst).Nodup := by
    rw [List.map_reverse]
    exact List.nodup_reverse.mpr hnodup
  rw [get?_sort_eq_get?_reverse]
  apply Option.ext
  intro value
  constructor
  · intro h
    exact get?_eq_some_of_mem hnodup (List.mem_reverse.mp (mem_of_get? h))
  · intro h
    exact get?_eq_some_of_mem hreverse (List.mem_reverse.mpr (mem_of_get? h))

end Keyed

namespace Json

/-- The members of the optional fields that are there. -/
def membersOf (optional : List (String × Option Json)) : Members :=
  optional.flatMap fun m => memberOf? m.1 m.2

theorem mem_membersOf {optional : List (String × Option Json)} {key : String} {v : Json} :
    (key, v) ∈ membersOf optional ↔ (key, some v) ∈ optional := by
  simp [membersOf, memberOf?]

theorem keys_membersOf_sublist (optional : List (String × Option Json)) :
    ((membersOf optional).map Prod.fst).Sublist (optional.map Prod.fst) := by
  induction optional with
  | nil => exact List.Sublist.slnil
  | cons m rest ih =>
      obtain ⟨key, v⟩ := m
      cases v with
      | none => exact ih.cons key
      | some v => exact ih.cons_cons key

section Record

variable {required : Members} {optional : List (String × Option Json)}

theorem keys_nodup_append (h : (required.map Prod.fst ++ optional.map Prod.fst).Nodup) :
    ((required ++ membersOf optional).map Prod.fst).Nodup := by
  rw [List.map_append]
  exact h.sublist ((List.Sublist.refl _).append (keys_membersOf_sublist optional))

theorem get?_required (h : (required.map Prod.fst ++ optional.map Prod.fst).Nodup)
    {m : String × Json} (hm : m ∈ required) :
    Keyed.get? (required ++ membersOf optional) m.1 = some m.2 :=
  Keyed.get?_eq_some_of_mem (keys_nodup_append h) (List.mem_append_left _ hm)

theorem get?_optional (h : (required.map Prod.fst ++ optional.map Prod.fst).Nodup)
    {m : String × Option Json} (hm : m ∈ optional) :
    Keyed.get? (required ++ membersOf optional) m.1 = m.2 := by
  obtain ⟨key, given⟩ := m
  cases given with
  | some v =>
      exact Keyed.get?_eq_some_of_mem (keys_nodup_append h)
        (List.mem_append_right _ (mem_membersOf.mpr hm))
  | none =>
      obtain ⟨-, hoptional, hdisjoint⟩ := List.nodup_append'.mp h
      rw [Option.eq_none_iff_forall_ne_some]
      intro v hget
      rcases List.mem_append.mp (Keyed.mem_of_get? hget) with hv | hv
      · exact hdisjoint (List.mem_map.mpr ⟨_, hv, rfl⟩) (List.mem_map.mpr ⟨_, hm, rfl⟩)
      · have heq := List.inj_on_of_nodup_map hoptional hm (mem_membersOf.mp hv) rfl
        simp at heq

end Record

/-- Sorting an object with different keys sorts what stands under each key. -/
theorem get?_sorted {members : Members} (hnodup : (members.map Prod.fst).Nodup) (key : String) :
    (object members).sorted.get? key = ((object members).get? key).map sorted := by
  have hkeys : ((sortedMembers members).map Prod.fst).Nodup := by
    rw [sortedMembers_eq_map, List.map_map]
    exact hnodup
  change (Keyed.sort (sortedMembers members)).get? key = (Keyed.get? members key).map sorted
  rw [Keyed.get?_sort hkeys, sortedMembers_eq_map, Keyed.get?_map]

section Record

variable {required : Members} {optional : List (String × Option Json)}

/-- The sorted object of these members writes a record whose entries are the members. -/
theorem exists_writesRecord (required : Members) (optional : List (String × Option Json))
    (h : (required.map Prod.fst ++ optional.map Prod.fst).Nodup) :
    ∃ entries, WritesRecord (required.map Prod.fst) (optional.map Prod.fst)
        (object (required ++ membersOf optional)).sorted entries ∧
      (∀ m ∈ required, entries.get? m.1 = some m.2.sorted) ∧
      ∀ m ∈ optional, entries.get? m.1 = m.2.map sorted := by
  have hget (key : String) :
      (Keyed.sort (sortedMembers (required ++ membersOf optional))).get? key =
        (Keyed.get? (required ++ membersOf optional) key).map sorted :=
    get?_sorted (keys_nodup_append h) key
  refine ⟨_, .object ?declared ?complete, ?required, ?optional⟩
  case declared =>
    intro m hm
    have hm := Keyed.mem_of_mem_sort hm
    rw [sortedMembers_eq_map] at hm
    obtain ⟨w, hw, rfl⟩ := List.mem_map.mp hm
    rcases List.mem_append.mp hw with hw | hw
    · exact List.mem_append_left _ (List.mem_map.mpr ⟨w, hw, rfl⟩)
    · exact List.mem_append_right _
        ((keys_membersOf_sublist optional).subset (List.mem_map.mpr ⟨w, hw, rfl⟩))
  case complete =>
    intro key hkey
    obtain ⟨m, hm, rfl⟩ := List.mem_map.mp hkey
    rw [Keyed.has_eq_isSome_get?, hget, get?_required h hm]
    rfl
  case required =>
    intro m hm
    rw [hget, get?_required h hm]
    rfl
  case optional =>
    intro m hm
    rw [hget, get?_optional h hm]

/-- The object reads back if the values of its members do. -/
theorem ReadsBack.ofMembers {depth : Nat} (hrequired : ∀ m ∈ required, ReadsBack depth m.2)
    (hoptional : ∀ m ∈ optional, ∀ v ∈ m.2, ReadsBack depth v) :
    ReadsBack (depth + 1) (.object (required ++ membersOf optional)) := by
  apply ReadsBack.object
  intro m hm
  rcases List.mem_append.mp hm with hm | hm
  · exact hrequired m hm
  · exact hoptional _ (mem_membersOf.mp hm) m.2 rfl

end Record

section Parts

variable {α β : Type} {denotes : Json → β → Prop} {write : α → Json} {f : α → β}

theorem optionally_map {given : Option α} (h : ∀ a ∈ given, denotes (write a) (f a)) :
    Optionally denotes (given.map write) (given.map f) := by
  cases given with
  | none => exact .absent
  | some a => exact .entry (h a rfl)

theorem optionally_map_self {denotes : Json → α → Prop} {given : Option α}
    (h : ∀ a, denotes (write a) a) : Optionally denotes (given.map write) given := by
  cases given with
  | none => exact .absent
  | some a => exact .entry (h a)

theorem listOf_map {list : List α} (h : ∀ a ∈ list, denotes (write a).sorted (f a)) :
    ListOf denotes (array (list.map write)).sorted (list.map f) := by
  refine ⟨_, by rw [sorted, sortedItems_eq_map], ?_⟩
  rw [List.map_map, List.forall₂_map_left_iff, List.forall₂_map_right_iff, List.forall₂_same]
  exact h

end Parts

end Json

end ApiScreens
