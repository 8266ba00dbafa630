import ApiScreens.Distinct
import Mathlib.Data.List.Nodup

/-!
# First elements of each key are distinct

What is kept of a list are elements of it with different keys, one for every key of the list. The
different elements themselves stand in the order in which they are first there.
-/

namespace ApiScreens

section Keys

variable {α κ : Type} [BEq κ] {key : α → κ}

theorem distinctFrom_subset (seen : List κ) (items : List α) :
    distinctFrom key seen items ⊆ items := by
  induction items generalizing seen with
  | nil => exact List.Subset.refl _
  | cons a rest ih =>
      unfold distinctFrom
      split
      · exact List.subset_cons_of_subset a (ih seen)
      · exact List.cons_subset_cons a (ih (key a :: seen))

theorem distinctBy_subset (items : List α) : distinctBy key items ⊆ items :=
  distinctFrom_subset [] items

theorem distinctBy_ne_nil {items : List α} (h : items ≠ []) : distinctBy key items ≠ [] := by
  obtain ⟨a, rest, rfl⟩ := List.exists_cons_of_ne_nil h
  exact List.cons_ne_nil _ _

theorem distinct_subset (items : List κ) : distinct items ⊆ items := distinctBy_subset items

theorem head?_distinct (items : List κ) : (distinct items).head? = items.head? := by
  cases items <;> rfl

variable [LawfulBEq κ]

theorem not_mem_of_mem_distinctFrom {seen : List κ} {items : List α} {a : α}
    (h : a ∈ distinctFrom key seen items) : key a ∉ seen := by
  induction items generalizing seen with
  | nil => contradiction
  | cons b rest ih =>
      unfold distinctFrom at h
      split at h
      · exact ih h
      · rename_i hnew
        rcases List.mem_cons.mp h with rfl | h
        · simpa using hnew
        · exact fun hmem => ih h (List.mem_cons_of_mem _ hmem)

/-- The elements kept have different keys. -/
theorem distinctFrom_keys_nodup (seen : List κ) (items : List α) :
    ((distinctFrom key seen items).map key).Nodup := by
  induction items generalizing seen with
  | nil => exact List.nodup_nil
  | cons a rest ih =>
      unfold distinctFrom
      split
      · exact ih seen
      · rw [List.map_cons]
        apply List.nodup_cons.mpr
        refine ⟨?_, ih (key a :: seen)⟩
        intro hmem
        obtain ⟨b, hb, hkey⟩ := List.mem_map.mp hmem
        exact not_mem_of_mem_distinctFrom hb (hkey ▸ List.mem_cons_self)

theorem distinctBy_keys_nodup (items : List α) : ((distinctBy key items).map key).Nodup :=
  distinctFrom_keys_nodup [] items

theorem distinctFrom_eq_self {seen : List κ} {items : List α} (hnodup : (items.map key).Nodup)
    (hnew : ∀ a ∈ items, key a ∉ seen) : distinctFrom key seen items = items := by
  induction items generalizing seen with
  | nil => rfl
  | cons a rest ih =>
      obtain ⟨hfirst, hnodup⟩ := List.nodup_cons.mp hnodup
      obtain ⟨ha, hrest⟩ := List.forall_mem_cons.mp hnew
      have hcontains : seen.contains (key a) = false := by simpa using ha
      rw [distinctFrom, hcontains, if_neg Bool.false_ne_true, ih hnodup]
      intro b hb hmem
      rcases List.mem_cons.mp hmem with heq | hmem
      · exact hfirst (heq ▸ List.mem_map_of_mem hb)
      · exact hrest b hb hmem

/-- A list of elements with different keys is kept whole. -/
theorem distinctBy_eq_self {items : List α} (hnodup : (items.map key).Nodup) :
    distinctBy key items = items :=
  distinctFrom_eq_self hnodup fun _ _ => List.not_mem_nil

/-- Leaving out whole keys leaves the others as they are. -/
theorem filter_distinctFrom {kept : κ → Bool} {seen seen' : List κ}
    (h : ∀ k, kept k = true → (k ∈ seen ↔ k ∈ seen')) (items : List α) :
    (distinctFrom key seen items).filter (fun a => kept (key a)) =
      distinctFrom key seen' (items.filter fun a => kept (key a)) := by
  induction items generalizing seen seen' with
  | nil => rfl
  | cons a rest ih =>
      by_cases hkept : kept (key a) = true
      · rw [List.filter_cons, if_pos hkept, distinctFrom, distinctFrom]
        have hseen : seen.contains (key a) = seen'.contains (key a) := by
          rw [Bool.eq_iff_iff, List.contains_iff_mem, List.contains_iff_mem, h _ hkept]
        rw [hseen]
        split
        · exact ih h
        · rw [List.filter_cons, if_pos hkept, ih]
          intro k hk
          rw [List.mem_cons, List.mem_cons, h k hk]
      · rw [List.filter_cons, if_neg hkept, distinctFrom]
        split
        · exact ih h
        · rw [List.filter_cons, if_neg hkept]
          apply ih
          intro k hk
          have hne : k ≠ key a := fun heq => hkept (heq ▸ hk)
          rw [List.mem_cons, or_iff_right hne, h k hk]

theorem filter_distinctBy (kept : κ → Bool) (items : List α) :
    (distinctBy key items).filter (fun a => kept (key a)) =
      distinctBy key (items.filter fun a => kept (key a)) :=
  filter_distinctFrom (fun _ _ => Iff.rfl) items

theorem mem_distinctFrom_iff {seen : List κ} {items : List α} {a : α} :
    a ∈ distinctFrom key seen items ↔
      key a ∉ seen ∧ items.find? (key · == key a) = some a := by
  induction items generalizing seen with
  | nil => simp [distinctFrom]
  | cons b rest ih =>
      by_cases hseen : key b ∈ seen
      · rw [distinctFrom, if_pos (by simpa using hseen), ih]
        refine and_congr_right fun hnew => ?_
        have hne : (key b == key a) = false := by
          rw [beq_eq_false_iff_ne]
          exact fun heq => hnew (heq ▸ hseen)
        rw [List.find?_cons, hne]
      · rw [distinctFrom, if_neg (by simpa using hseen), List.mem_cons, ih, List.find?_cons]
        by_cases hkey : key b = key a
        · simp [hkey, hkey ▸ hseen, eq_comm]
        · have hne : a ≠ b := fun heq => hkey (heq ▸ rfl)
          simp [beq_eq_false_iff_ne.mpr hkey, hne, Ne.symm hkey]

/-- What is kept of a list are the elements that come first under their keys. -/
theorem mem_distinctBy_iff {items : List α} {a : α} :
    a ∈ distinctBy key items ↔ items.find? (key · == key a) = some a := by
  rw [distinctBy, mem_distinctFrom_iff]
  simp

/-- What is kept of a list has under each key the first element of the list alone, in whatever order
it is put. -/
theorem filter_key_eq_find? {items kept : List α} (h : kept.Perm (distinctBy key items)) (k : κ) :
    kept.filter (key · == k) = (items.find? (key · == k)).toList := by
  have hnodup : (kept.map key).Nodup := (h.map key).nodup_iff.mpr (distinctBy_keys_nodup items)
  have hmem {a : α} : a ∈ kept.filter (key · == k) ↔ items.find? (key · == k) = some a := by
    rw [List.mem_filter, h.mem_iff, mem_distinctBy_iff]
    constructor
    · rintro ⟨hfirst, hkey⟩
      rwa [beq_iff_eq.mp hkey] at hfirst
    · intro hfirst
      have hkey := List.find?_some hfirst
      rw [beq_iff_eq.mp hkey]
      exact ⟨hfirst, beq_self_eq_true k⟩
  have hnodupAt : (kept.filter (key · == k)).Nodup := (List.Nodup.of_map key hnodup).filter _
  cases hfound : items.find? (key · == k) with
  | none =>
      apply List.eq_nil_iff_forall_not_mem.mpr
      intro a ha
      rw [hmem, hfound] at ha
      contradiction
  | some a =>
      apply List.perm_singleton.mp
      apply (List.perm_ext_iff_of_nodup hnodupAt (List.nodup_singleton a)).mpr
      intro b
      rw [hmem, hfound, List.mem_singleton, Option.some.injEq, eq_comm]

theorem distinct_nodup (items : List κ) : (distinct items).Nodup := by
  have h : ((distinct items).map id).Nodup := distinctBy_keys_nodup items
  rwa [List.map_id] at h

theorem mem_distinct_iff {items : List κ} {a : κ} : a ∈ distinct items ↔ a ∈ items := by
  rw [distinct, mem_distinctBy_iff]
  constructor
  · exact List.mem_of_find?_eq_some
  · intro ha
    have hsome : (items.find? fun b => id b == id a).isSome = true :=
      List.find?_isSome.mpr ⟨a, ha, beq_self_eq_true a⟩
    obtain ⟨b, hb⟩ := Option.isSome_iff_exists.mp hsome
    have hfound := List.find?_some hb
    rw [hb, show b = a from beq_iff_eq.mp hfound]

end Keys

section Order

variable {κ : Type} [BEq κ]

/-- The elements of a list, each once and in the order in which they are first there. -/
structure InFirstOrder (items kept : List κ) : Prop where
  mem_iff : ∀ a, a ∈ kept ↔ a ∈ items
  ascending : kept.Pairwise fun a b => items.idxOf a < items.idxOf b

namespace InFirstOrder

variable {items kept : List κ}

theorem nil : InFirstOrder ([] : List κ) [] := ⟨fun _ => Iff.rfl, List.Pairwise.nil⟩

theorem nodup (h : InFirstOrder items kept) : kept.Nodup := by
  apply h.ascending.imp
  rintro a _ hlt rfl
  exact Nat.lt_irrefl _ hlt

variable [LawfulBEq κ] {a : κ}

/-- What follows the elements does not change their order. -/
theorem ascending_append (h : InFirstOrder items kept) (more : List κ) :
    kept.Pairwise fun a b => (items ++ more).idxOf a < (items ++ more).idxOf b := by
  refine h.ascending.imp_of_mem ?_
  intro a b ha hb hlt
  rwa [List.idxOf_append, if_pos ((h.mem_iff a).mp ha), List.idxOf_append,
    if_pos ((h.mem_iff b).mp hb)]

/-- What is there already adds nothing. -/
theorem concat_of_mem (h : InFirstOrder items kept) (ha : a ∈ items) :
    InFirstOrder (items ++ [a]) kept := by
  constructor
  · intro b
    rw [h.mem_iff, List.mem_append, List.mem_singleton]
    exact ⟨Or.inl, fun hb => hb.elim id fun heq => heq ▸ ha⟩
  · exact h.ascending_append [a]

/-- What is new comes last. -/
theorem concat_of_not_mem (h : InFirstOrder items kept) (ha : a ∉ items) :
    InFirstOrder (items ++ [a]) (kept ++ [a]) := by
  constructor
  · intro b
    rw [List.mem_append, List.mem_append, h.mem_iff]
  · rw [List.pairwise_append]
    refine ⟨h.ascending_append [a], List.pairwise_singleton _ _, ?_⟩
    intro b hb c hc
    obtain rfl := List.mem_singleton.mp hc
    have hb := (h.mem_iff b).mp hb
    rw [List.idxOf_append, if_pos hb, List.idxOf_append, if_neg ha]
    exact Nat.lt_of_lt_of_le (List.idxOf_lt_length_of_mem hb) (Nat.le_add_left _ _)

end InFirstOrder

variable [LawfulBEq κ]

theorem distinctFrom_ascending (seen items : List κ) :
    (distinctFrom id seen items).Pairwise fun a b => items.idxOf a < items.idxOf b := by
  induction items generalizing seen with
  | nil => exact List.Pairwise.nil
  | cons c rest ih =>
      -- What is kept of the rest is not the first element, and stands one place further back.
      have hrest (others : List κ) (hc : c ∈ others) :
          (distinctFrom id others rest).Pairwise
            fun a b => (c :: rest).idxOf a < (c :: rest).idxOf b := by
        have hne {a : κ} (ha : a ∈ distinctFrom id others rest) : c ≠ a := by
          rintro rfl
          exact not_mem_of_mem_distinctFrom ha hc
        refine (ih others).imp_of_mem ?_
        intro a b ha hb hlt
        rw [List.idxOf_cons_ne _ (hne ha), List.idxOf_cons_ne _ (hne hb)]
        exact Nat.succ_lt_succ hlt
      by_cases hseen : c ∈ seen
      · rw [distinctFrom, if_pos (by simpa using hseen)]
        exact hrest seen hseen
      · rw [distinctFrom, if_neg (by simpa using hseen), List.pairwise_cons]
        refine ⟨?_, hrest (c :: seen) List.mem_cons_self⟩
        intro a ha
        have hne : c ≠ a := by
          rintro rfl
          exact not_mem_of_mem_distinctFrom ha List.mem_cons_self
        rw [List.idxOf_cons_self, List.idxOf_cons_ne _ hne]
        exact Nat.succ_pos _

theorem inFirstOrder_distinct (items : List κ) : InFirstOrder items (distinct items) where
  mem_iff _ := mem_distinct_iff
  ascending := distinctFrom_ascending [] items

end Order

end ApiScreens
