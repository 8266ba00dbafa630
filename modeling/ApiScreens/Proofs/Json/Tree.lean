import ApiScreens.Json.Basic
import Mathlib.Data.List.Nodup

/-!
# JSON trees

Induction over JSON values, and the values that are trees: those whose objects have their keys
ascending and each key once. Sorting a value makes a tree of it and leaves a tree as it is.
Entries whose keys ascend are told apart by what their keys look up.
-/

namespace ApiScreens

namespace Keyed

variable {α : Type}

/-- Entries whose keys ascend, so that each key is there once. -/
abbrev Ascending (entries : Keyed α) : Prop := entries.Pairwise fun a b => a.1 < b.1

theorem mem_of_get? {entries : Keyed α} {key : String} {value : α}
    (h : entries.get? key = some value) : (key, value) ∈ entries := by
  obtain ⟨e, he, rfl⟩ := Option.map_eq_some_iff.mp h
  have hkey : e.1 = key := by simpa using List.find?_some he
  exact hkey ▸ List.mem_of_find?_eq_some he

theorem mem_insert {key : String} {value : α} {entries : Keyed α} {e : String × α}
    (h : e ∈ insert key value entries) : e = (key, value) ∨ e ∈ entries := by
  induction entries with
  | nil => simpa [insert] using h
  | cons first rest ih =>
      simp only [insert] at h
      split at h
      · simpa using h
      · split at h
        · rcases List.mem_cons.mp h with h | h
          · exact Or.inl h
          · exact Or.inr (List.mem_cons_of_mem _ h)
        · rcases List.mem_cons.mp h with h | h
          · exact Or.inr (h ▸ List.mem_cons_self)
          · exact (ih h).imp_right (List.mem_cons_of_mem _)

theorem mem_keys_insert {key other : String} {value : α} {entries : Keyed α} :
    other ∈ (insert key value entries).map Prod.fst ↔
      other = key ∨ other ∈ entries.map Prod.fst := by
  induction entries with
  | nil => simp [insert]
  | cons first rest ih =>
      rw [insert]
      split
      · simp
      · split
        · rename_i hsame
          simp [hsame]
        · rw [List.map_cons, List.mem_cons, ih, List.map_cons, List.mem_cons, or_left_comm]

theorem has_insert_of_ne {key other : String} (h : other ≠ key) (value : α) (entries : Keyed α) :
    has (insert key value entries) other = entries.has other := by
  have hkeys (l : Keyed α) : l.has other = true ↔ other ∈ l.map Prod.fst := by
    simp [has]
  rw [Bool.eq_iff_iff, hkeys, hkeys, mem_keys_insert, or_iff_right h]

/-- Under a new key a value comes in beside the others. -/
theorem mem_insert_iff {key : String} {value : α} {entries : Keyed α} {e : String × α}
    (h : entries.has key = false) :
    e ∈ insert key value entries ↔ e = (key, value) ∨ e ∈ entries := by
  induction entries with
  | nil => simp [insert]
  | cons first rest ih =>
      obtain ⟨hfirst, hrest⟩ := Bool.or_eq_false_iff.mp h
      rw [insert]
      split
      · exact List.mem_cons
      · rw [if_neg (Ne.symm (beq_eq_false_iff_ne.mp hfirst)), List.mem_cons, ih hrest,
          List.mem_cons, or_left_comm]

theorem insert_ascending (key : String) (value : α) {entries : Keyed α} (h : entries.Ascending) :
    Ascending (insert key value entries) := by
  induction entries with
  | nil => simp [insert]
  | cons first rest ih =>
      obtain ⟨hfirst, hrest⟩ := List.pairwise_cons.mp h
      simp only [insert]
      split
      · rename_i hlt
        refine List.pairwise_cons.mpr ⟨?_, h⟩
        intro e he
        rcases List.mem_cons.mp he with rfl | he
        · exact hlt
        · exact String.lt_trans hlt (hfirst e he)
      · rename_i hnlt
        split
        · rename_i heq
          subst heq
          exact List.pairwise_cons.mpr ⟨hfirst, hrest⟩
        · rename_i hne
          refine List.pairwise_cons.mpr ⟨?_, ih hrest⟩
          intro e he
          rcases mem_insert he with rfl | he
          · exact Std.lt_of_le_of_ne (String.not_lt.mp hnlt) (Ne.symm hne)
          · exact hfirst e he

theorem foldl_insert_ascending {sorted : Keyed α} (entries : Keyed α) (h : sorted.Ascending) :
    Ascending (entries.foldl (fun sorted e => insert e.1 e.2 sorted) sorted) := by
  induction entries generalizing sorted with
  | nil => exact h
  | cons e rest ih => exact ih (insert_ascending e.1 e.2 h)

theorem sort_ascending (entries : Keyed α) : (sort entries).Ascending :=
  foldl_insert_ascending entries List.Pairwise.nil

theorem mem_of_mem_foldl_insert {sorted entries : Keyed α} {e : String × α}
    (h : e ∈ entries.foldl (fun sorted e => insert e.1 e.2 sorted) sorted) :
    e ∈ sorted ∨ e ∈ entries := by
  induction entries generalizing sorted with
  | nil => exact Or.inl h
  | cons first rest ih =>
      rcases ih h with h | h
      · rcases mem_insert h with rfl | h
        · exact Or.inr List.mem_cons_self
        · exact Or.inl h
      · exact Or.inr (List.mem_cons_of_mem _ h)

theorem mem_of_mem_sort {entries : Keyed α} {e : String × α} (h : e ∈ sort entries) :
    e ∈ entries :=
  (mem_of_mem_foldl_insert h).resolve_left List.not_mem_nil

theorem insert_of_forall_lt {key : String} (value : α) {entries : Keyed α}
    (h : ∀ e ∈ entries, e.1 < key) : insert key value entries = entries ++ [(key, value)] := by
  induction entries with
  | nil => rfl
  | cons first rest ih =>
      have hfirst : first.1 < key := h first List.mem_cons_self
      have hrest : ∀ e ∈ rest, e.1 < key := fun e he => h e (List.mem_cons_of_mem _ he)
      have hne : key ≠ first.1 := by
        rintro rfl
        exact String.lt_irrefl _ hfirst
      rw [insert, if_neg (String.lt_asymm hfirst), if_neg hne, ih hrest]
      rfl

theorem foldl_insert_eq_append {sorted entries : Keyed α} (h : Ascending (sorted ++ entries)) :
    entries.foldl (fun sorted e => insert e.1 e.2 sorted) sorted = sorted ++ entries := by
  induction entries generalizing sorted with
  | nil => simp
  | cons e rest ih =>
      have hbefore : ∀ f ∈ sorted, f.1 < e.1 := fun f hf =>
        (List.pairwise_append.mp h).2.2 f hf e List.mem_cons_self
      have happend : sorted ++ e :: rest = (sorted ++ [(e.1, e.2)]) ++ rest := by simp
      rw [List.foldl_cons, insert_of_forall_lt e.2 hbefore, ih (happend ▸ h), happend]

theorem sort_eq_self {entries : Keyed α} (h : entries.Ascending) : sort entries = entries :=
  @foldl_insert_eq_append _ [] entries h

section Lookup

variable {β : Type} {entries entries' : Keyed α}

theorem get?_eq_some_iff (h : entries.Ascending) {key : String} {value : α} :
    entries.get? key = some value ↔ (key, value) ∈ entries := by
  constructor
  · exact mem_of_get?
  · intro hmem
    induction entries with
    | nil => contradiction
    | cons first rest ih =>
        obtain ⟨hfirst, hrest⟩ := List.pairwise_cons.mp h
        rcases List.mem_cons.mp hmem with rfl | hmem
        · simp [get?]
        · have hne : first.1 ≠ key := (String.ne_of_lt (hfirst _ hmem))
          have hskip : get? (first :: rest) key = get? rest key := by simp [get?, hne]
          rw [hskip]
          exact ih hrest hmem

theorem get?_map (f : α → β) (entries : Keyed α) (key : String) :
    get? (entries.map fun e => (e.1, f e.2)) key = (entries.get? key).map f := by
  simp [get?, List.find?_map, Function.comp_def]

theorem has_map (f : α → β) (entries : Keyed α) (key : String) :
    has (entries.map fun e => (e.1, f e.2)) key = entries.has key := by
  simp [has, List.any_map, Function.comp_def]

theorem map_insert (f : α → β) (key : String) (value : α) (entries : Keyed α) :
    (insert key value entries).map (fun e => (e.1, f e.2)) =
      insert key (f value) (entries.map fun e => (e.1, f e.2)) := by
  induction entries with
  | nil => rfl
  | cons first rest ih =>
      rw [List.map_cons, insert, insert]
      split
      · rfl
      · split
        · rfl
        · rw [List.map_cons, ih]

theorem ascending_map {f : α → β} :
    Ascending (entries.map fun e => (e.1, f e.2)) ↔ entries.Ascending :=
  List.pairwise_map

/-- Entries with ascending keys are equal if every key has the same value in both. -/
theorem eq_of_get? (h : entries.Ascending) (h' : entries'.Ascending)
    (hsame : ∀ key, entries.get? key = entries'.get? key) : entries = entries' := by
  have hnodup {l : Keyed α} (hl : l.Ascending) : l.Nodup := by
    refine hl.imp ?_
    rintro a _ hlt rfl
    exact String.lt_irrefl _ hlt
  have hperm : entries.Perm entries' := by
    rw [List.perm_ext_iff_of_nodup (hnodup h) (hnodup h')]
    intro e
    exact (get?_eq_some_iff h).symm.trans (hsame e.1 ▸ get?_eq_some_iff h')
  refine hperm.eq_of_pairwise ?_ h h'
  intro a b _ _ hab hba
  exact absurd hba (String.lt_asymm hab)

/-- Entries with ascending keys are equal if they have the same members. -/
theorem eq_of_mem_iff (h : entries.Ascending) (h' : entries'.Ascending)
    (hsame : ∀ e, e ∈ entries ↔ e ∈ entries') : entries = entries' := by
  apply eq_of_get? h h'
  intro key
  apply Option.ext
  intro value
  rw [get?_eq_some_iff h, get?_eq_some_iff h', hsame]

end Lookup

end Keyed

namespace Json

theorem sizeOf_lt_of_mem {members : Members} {m : String × Json} (h : m ∈ members) :
    sizeOf m.2 < sizeOf (object members) := by
  have hmember : sizeOf m.2 < sizeOf m := by
    cases m
    simp only [Prod.mk.sizeOf_spec]
    omega
  have hmembers := List.sizeOf_lt_of_mem h
  rw [object.sizeOf_spec]
  omega

theorem sizeOf_get?_lt {v w : Json} {key : String} (h : v.get? key = some w) :
    sizeOf w < sizeOf v := by
  cases v with
  | object members => exact @sizeOf_lt_of_mem members (key, w) (Keyed.mem_of_get? h)
  | _ => contradiction

/-- Induction over values, with a hypothesis for every item and for every member. -/
@[induction_eliminator]
theorem parts_induction {motive : Json → Prop} (null : motive .null)
    (bool : ∀ b, motive (.bool b)) (number : ∀ n, motive (.number n))
    (string : ∀ s, motive (.string s))
    (array : ∀ items, (∀ v ∈ items, motive v) → motive (.array items))
    (object : ∀ members, (∀ m ∈ members, motive m.2) → motive (.object members)) :
    ∀ v, motive v
  | .null => null
  | .bool b => bool b
  | .number n => number n
  | .string s => string s
  | .array items => array items fun v hv =>
      have hlt : sizeOf v < sizeOf (Json.array items) :=
        Nat.lt_of_lt_of_le (List.sizeOf_lt_of_mem hv) (by simp)
      parts_induction null bool number string array object v
  | .object members => object members fun m hm =>
      have hlt := sizeOf_lt_of_mem hm
      parts_induction null bool number string array object m.2
termination_by v => sizeOf v
decreasing_by
  · exact hlt
  · exact hlt

/-- The values that are trees: the members of every object ascend by key. -/
inductive IsTree : Json → Prop
  | null : IsTree .null
  | bool (b) : IsTree (.bool b)
  | number (n) : IsTree (.number n)
  | string (s) : IsTree (.string s)
  | array {items} (parts : ∀ v ∈ items, IsTree v) : IsTree (.array items)
  | object {members} (keys : Keyed.Ascending members) (parts : ∀ m ∈ members, IsTree m.2) :
      IsTree (.object members)

@[simp] theorem isTree_array {items : List Json} :
    (array items).IsTree ↔ ∀ v ∈ items, v.IsTree := by
  constructor
  · rintro (_ | _ | _ | _ | h)
    exact h
  · exact IsTree.array

@[simp] theorem isTree_object {members : Members} :
    (object members).IsTree ↔ members.Ascending ∧ ∀ m ∈ members, m.2.IsTree := by
  constructor
  · rintro (_ | _ | _ | _ | _ | ⟨keys, parts⟩)
    exact ⟨keys, parts⟩
  · rintro ⟨keys, parts⟩
    exact IsTree.object keys parts

theorem isTree_ofMembers {members : Members} (h : ∀ m ∈ members, m.2.IsTree) :
    (ofMembers members).IsTree :=
  IsTree.object (Keyed.sort_ascending members) fun m hm => h m (Keyed.mem_of_mem_sort hm)

/-- Sorting the members of a value makes a tree. -/
theorem isTree_sorted (v : Json) : v.sorted.IsTree := by
  induction v with
  | null => exact IsTree.null
  | bool b => exact IsTree.bool b
  | number n => exact IsTree.number n
  | string s => exact IsTree.string s
  | array items ih =>
      rw [sorted, sortedItems_eq_map]
      apply IsTree.array
      intro v hv
      obtain ⟨u, hu, rfl⟩ := List.mem_map.mp hv
      exact ih u hu
  | object members ih =>
      rw [sorted, sortedMembers_eq_map]
      apply isTree_ofMembers
      intro m hm
      obtain ⟨u, hu, rfl⟩ := List.mem_map.mp hm
      exact ih u hu

/-- A tree has its members sorted already. -/
theorem IsTree.sorted_eq {v : Json} (h : v.IsTree) : v.sorted = v := by
  induction h with
  | null => rfl
  | bool b => rfl
  | number n => rfl
  | string s => rfl
  | @array items parts ih =>
      rw [sorted, sortedItems_eq_map, List.map_congr_left ih, List.map_id']
  | @object members keys parts ih =>
      have hsame : members.map (fun m => (m.1, m.2.sorted)) = members := by
        rw [List.map_congr_left (g := id) fun m hm => by rw [ih m hm, id], List.map_id]
      rw [sorted, sortedMembers_eq_map, hsame, ofMembers, Keyed.sort_eq_self keys]

/-- The parts of a tree are trees. -/
theorem IsTree.get? {v w : Json} {key : String} (h : v.IsTree) (hw : v.get? key = some w) :
    w.IsTree := by
  cases h with
  | @object members keys parts => exact parts _ (Keyed.mem_of_get? hw)
  | _ => contradiction

/-- The members of the object under a key. -/
def membersAt (v : Json) (key : String) : Members := ((v.get? key).bind members?).getD []

/-- The items of the array under a key. -/
def itemsAt (v : Json) (key : String) : List Json := ((v.get? key).bind items?).getD []

/-- The strings among the items of the array under a key. -/
def textsAt (v : Json) (key : String) : List String := (v.itemsAt key).filterMap string?

theorem IsTree.membersAt {v : Json} (h : v.IsTree) (key : String) :
    (v.membersAt key).Ascending ∧ ∀ m ∈ v.membersAt key, m.2.IsTree := by
  unfold Json.membersAt
  cases hmember : v.get? key with
  | none => exact ⟨List.Pairwise.nil, List.forall_mem_nil _⟩
  | some w =>
      cases h.get? hmember with
      | object keys parts => exact ⟨keys, parts⟩
      | _ => exact ⟨List.Pairwise.nil, List.forall_mem_nil _⟩

instance : DecidablePred IsTree := fun v =>
  decidable_of_iff (v.sorted = v) ⟨fun h => h ▸ isTree_sorted v, IsTree.sorted_eq⟩

end Json

end ApiScreens
