import Mathlib.Data.List.Sort

/-!
# Sorting by comparisons

A list that is sorted by a transitive comparison ascends, and the sorted list depends only on which
items there are if the comparison takes only equal items for equal. Items that tie stay in their
order, so a list sorted by a key depends only on what there is under each key, and in what order.
-/

namespace ApiScreens

open Std

section Sorting

variable {α : Type} {cmp : α → α → Ordering} [TransCmp cmp]

theorem notAfter_trans (a b c : α) (hab : (cmp a b != .gt) = true) (hbc : (cmp b c != .gt) = true) :
    (cmp a c != .gt) = true := by
  rw [← Ordering.isLE_iff_ne_gt.trans bne_iff_ne.symm] at hab hbc ⊢
  exact TransCmp.isLE_trans hab hbc

omit [TransCmp cmp] in
theorem notAfter_total [OrientedCmp cmp] (a b : α) :
    ((cmp a b != .gt) || (cmp b a != .gt)) = true := by
  have hswap : cmp b a = (cmp a b).swap := OrientedCmp.eq_swap
  rw [hswap]
  cases cmp a b <;> rfl

theorem mergeSort_ascending (items : List α) :
    (items.mergeSort fun a b => cmp a b != .gt).Pairwise fun a b => (cmp a b).isLE = true := by
  have hsorted : (items.mergeSort fun a b => cmp a b != .gt).Pairwise
      fun a b => (cmp a b != .gt) = true :=
    List.pairwise_mergeSort notAfter_trans notAfter_total items
  exact hsorted.imp fun h => Ordering.isLE_iff_ne_gt.mpr (bne_iff_ne.mp h)

/-- Sorting leaves exactly the lists as they are that ascend. -/
theorem mergeSort_eq_self_iff {items : List α} :
    (items.mergeSort fun a b => cmp a b != .gt) = items ↔
      items.Pairwise fun a b => (cmp a b).isLE = true := by
  constructor
  · intro h
    rw [← h]
    exact mergeSort_ascending items
  · intro h
    apply List.mergeSort_of_pairwise
    exact h.imp fun hle => bne_iff_ne.mpr (Ordering.isLE_iff_ne_gt.mp hle)

/-- Sorting forgets where the items stood. -/
theorem mergeSort_eq_of_perm {items items' : List α}
    (heq : ∀ a ∈ items, ∀ b ∈ items, cmp a b = .eq → a = b) (h : items.Perm items') :
    (items.mergeSort fun a b => cmp a b != .gt) = items'.mergeSort fun a b => cmp a b != .gt := by
  refine List.Perm.eq_of_pairwise ?_ (mergeSort_ascending items) (mergeSort_ascending items') ?_
  · intro a b ha hb hab hba
    have ha' := (List.mergeSort_perm items _).mem_iff.mp ha
    have hb' := h.mem_iff.mpr ((List.mergeSort_perm items' _).mem_iff.mp hb)
    exact heq a ha' b hb' (OrientedCmp.isLE_antisymm hab hba)
  · exact (List.mergeSort_perm items _).trans (h.trans (List.mergeSort_perm items' _).symm)

theorem eq_of_perm_of_map_eq {β : Type} {key : α → β} {items items' : List α}
    (hnodup : (items.map key).Nodup) (hperm : items.Perm items')
    (hkeys : items.map key = items'.map key) : items = items' := by
  apply List.ext_getElem hperm.length_eq
  intro i hi hi'
  have hkey := List.getElem_of_eq hkeys ((List.length_map key).symm ▸ hi)
  rw [List.getElem_map, List.getElem_map] at hkey
  exact List.inj_on_of_nodup_map hnodup (List.getElem_mem hi)
    (hperm.mem_iff.mpr (List.getElem_mem hi')) hkey

/-- Items that tie stay in their order. -/
theorem filter_mergeSort {p : α → Bool} (htie : ∀ a b, p a = true → p b = true → cmp a b = .eq)
    (items : List α) :
    (items.mergeSort fun a b => cmp a b != .gt).filter p = items.filter p := by
  have hties : (items.filter p).Pairwise fun a b => (cmp a b != .gt) = true := by
    rw [List.pairwise_filter]
    apply List.pairwise_of_forall
    intro a b ha hb
    rw [htie a b ha hb]
    rfl
  have hsublist : (items.filter p).Sublist (items.mergeSort fun a b => cmp a b != .gt) :=
    List.sublist_mergeSort notAfter_trans notAfter_total hties List.filter_sublist
  have hfilter := hsublist.filter p
  rw [List.filter_filter] at hfilter
  simp only [Bool.and_self] at hfilter
  have hperm := (List.mergeSort_perm items fun a b => cmp a b != .gt).filter p
  exact (hfilter.eq_of_length hperm.length_eq.symm).symm

end Sorting

section Laws

variable {α : Type} {p : α → Prop} {cmp cmp' : α → α → Ordering}

/-- A comparison that orders some values totally and takes only equal ones for equal. -/
structure IsTotalOn (p : α → Prop) (cmp : α → α → Ordering) : Prop where
  swap : ∀ a b, p a → p b → cmp b a = (cmp a b).swap
  antisymm : ∀ a b, p a → p b → (cmp a b).isLE = true → (cmp b a).isLE = true → a = b
  trans : ∀ a b c, p a → p b → p c → (cmp a b).isLE = true → (cmp b c).isLE = true →
    (cmp a c).isLE = true
  total : ∀ a b, p a → p b → (cmp a b).isLE = true ∨ (cmp b a).isLE = true
  eq_iff : ∀ a b, p a → p b → (cmp a b = .eq ↔ a = b)

/-- A comparison is total where it agrees with a transitive one and only equal values tie. -/
theorem isTotalOn_of_transCmp [TransCmp cmp'] (hsame : ∀ a b, p a → p b → cmp a b = cmp' a b)
    (heq : ∀ a b, p a → p b → cmp a b = .eq → a = b) : IsTotalOn p cmp := by
  have hswap (a b : α) (ha : p a) (hb : p b) : cmp b a = (cmp a b).swap := by
    rw [hsame b a hb ha, hsame a b ha hb]
    exact OrientedCmp.eq_swap
  constructor
  case swap => exact hswap
  case antisymm =>
    intro a b ha hb hab hba
    apply heq a b ha hb
    rw [hsame a b ha hb] at hab ⊢
    rw [hsame b a hb ha] at hba
    exact OrientedCmp.isLE_antisymm hab hba
  case trans =>
    intro a b c ha hb hc hab hbc
    rw [hsame a b ha hb] at hab
    rw [hsame b c hb hc] at hbc
    rw [hsame a c ha hc]
    exact TransCmp.isLE_trans hab hbc
  case total =>
    intro a b ha hb
    rw [hswap a b ha hb]
    cases cmp a b <;> simp
  case eq_iff =>
    intro a b ha hb
    constructor
    · exact heq a b ha hb
    · rintro rfl
      rw [hsame a a ha ha]
      exact ReflCmp.compare_self

end Laws

section Keys

variable {α κ : Type} [DecidableEq κ] {key : α → κ} {items items' : List α}

theorem mem_of_filter_key_eq (h : ∀ k, items.filter (key · = k) = items'.filter (key · = k))
    {a : α} (ha : a ∈ items) : a ∈ items' := by
  have hfilter : a ∈ items.filter (key · = key a) := by simpa using ha
  rw [h] at hfilter
  exact List.mem_of_mem_filter hfilter

/-- A list that ascends by a key is told by what it holds under each key. -/
theorem eq_of_filter_key_eq [Ord κ] [TransOrd κ] [LawfulEqOrd κ]
    (h : items.Pairwise fun a b => (compare (key a) (key b)).isLE = true)
    (h' : items'.Pairwise fun a b => (compare (key a) (key b)).isLE = true)
    (hkeys : ∀ k, items.filter (key · = k) = items'.filter (key · = k)) : items = items' := by
  induction items generalizing items' with
  | nil =>
      symm
      apply List.eq_nil_iff_forall_not_mem.mpr
      exact fun a ha => List.not_mem_nil (mem_of_filter_key_eq (fun k => (hkeys k).symm) ha)
  | cons a rest ih =>
      have ha := mem_of_filter_key_eq hkeys List.mem_cons_self
      cases items' with
      | nil => contradiction
      | cons b rest' =>
          have hb := mem_of_filter_key_eq (fun k => (hkeys k).symm) List.mem_cons_self
          -- Neither head comes behind the other, so both are the first item under one key.
          have hle : (compare (key a) (key b)).isLE = true := by
            rcases List.mem_cons.mp hb with rfl | hb
            · exact Ordering.isLE_of_eq_eq (compare_self ..)
            · exact List.rel_of_pairwise_cons h hb
          have hle' : (compare (key b) (key a)).isLE = true := by
            rcases List.mem_cons.mp ha with rfl | ha
            · exact Ordering.isLE_of_eq_eq (compare_self ..)
            · exact List.rel_of_pairwise_cons h' ha
          have hkey : key a = key b := compare_eq_iff_eq.mp (OrientedCmp.isLE_antisymm hle hle')
          have hheads := hkeys (key a)
          rw [List.filter_cons_of_pos (by simp), List.filter_cons_of_pos (by simp [hkey])] at hheads
          obtain ⟨rfl, -⟩ := List.cons.inj hheads
          have hrest (k : κ) : rest.filter (key · = k) = rest'.filter (key · = k) := by
            have hk := hkeys k
            rw [List.filter_cons, List.filter_cons] at hk
            split at hk
            · exact (List.cons.inj hk).2
            · exact hk
          rw [ih h.of_cons h'.of_cons hrest]

end Keys

end ApiScreens
