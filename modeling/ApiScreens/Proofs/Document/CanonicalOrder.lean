import ApiScreens.Document.Canonical
import ApiScreens.Proofs.Json.CompactText
import ApiScreens.Proofs.Sorting
import ApiScreens.Proofs.Text.NaturalOrder

/-!
# Orders of canonical sorting

The orders that sort named objects and plain values are total orders in which only equal trees tie.
So the sorted list depends only on which items there are, not on where they stood.
-/

namespace ApiScreens.Canonical

open Std

section Sorting

variable {order : Json → Json → Ordering} {items items' : List Json}

theorem sortBy_perm (order : Json → Json → Ordering) (items : List Json) :
    (sortBy order items).Perm items :=
  List.mergeSort_perm _ _

/-- Sorting by an order in which only equal items tie forgets where the items stood. -/
theorem sortBy_eq_of_perm [TransCmp order] (heq : ∀ a ∈ items, ∀ b ∈ items, order a b = .eq → a = b)
    (h : items.Perm items') : sortBy order items = sortBy order items' :=
  mergeSort_eq_of_perm heq h

theorem sortBy_congr {order' : Json → Json → Ordering}
    (h : ∀ a ∈ items, ∀ b ∈ items, order a b = order' a b) :
    sortBy order items = sortBy order' items := by
  have hmap := List.map_mergeSort (l := items) (f := id) (r := fun a b => order a b != .gt)
    (s := fun a b => order' a b != .gt) fun a ha b hb => by rw [h a ha b hb]; rfl
  rwa [List.map_id, List.map_id] at hmap

/-- An order of keys orders what has them. -/
theorem transCmp_comap {α β : Type} (f : α → β) (cmp : β → β → Ordering) [TransCmp cmp] :
    TransCmp fun a b => cmp (f a) (f b) where
  eq_swap := OrientedCmp.eq_swap
  isLE_trans := TransCmp.isLE_trans

end Sorting

section Named

instance : TransCmp namedOrder :=
  have := transCmp_comap sortName Text.naturalOrder
  inferInstanceAs (TransCmp (compareLex (fun a b => Text.naturalOrder (sortName a) (sortName b))
    (compareOn Json.canonicalText)))

/-- Only equal trees tie in the order of named objects. -/
theorem eq_of_namedOrder {a b : Json} (ha : a.IsTree) (hb : b.IsTree) (h : namedOrder a b = .eq) :
    a = b := by
  have htext := LawfulEqOrd.eq_of_compare (Ordering.then_eq_eq.mp h).2
  exact ha.eq_of_canonicalText hb htext

end Named

section Plain

/-- Where the kind of a value stands in the order of plain values. -/
def rankKind : Json → Nat
  | .number _ => 0
  | .string _ => 1
  | _ => 2

/-- Where the nearest double of a number stands. -/
def rankDouble : Json → Int
  | .number n => n.toDouble.rank
  | _ => 0

/-- The text of a number. -/
def rankText : Json → String
  | .number n => n.text
  | _ => ""

/-- The text of a string. -/
def rankString : Json → String
  | .string s => s
  | _ => ""

/-- The order of plain values by ranks. -/
def plainRankOrder : Json → Json → Ordering :=
  compareLex (compareOn rankKind) (compareLex (compareOn rankDouble)
    (compareLex (compareOn rankText) fun a b => Text.naturalOrder (rankString a) (rankString b)))

instance : TransCmp plainRankOrder :=
  have := transCmp_comap rankString Text.naturalOrder
  inferInstanceAs (TransCmp (compareLex _ (compareLex _ (compareLex _ _))))

theorem isPlain_iff {v : Json} :
    isPlain v = true ↔ (∃ n, v = .number n) ∨ ∃ s, v = .string s := by
  cases v <;> simp [isPlain]

theorem plainOrder_eq_plainRankOrder {a b : Json} (ha : isPlain a = true) (hb : isPlain b = true) :
    plainOrder a b = plainRankOrder a b := by
  have hempty : Text.naturalOrder "" "" = .eq := ReflCmp.compare_self
  rcases isPlain_iff.mp ha with ⟨m, rfl⟩ | ⟨s, rfl⟩ <;>
    rcases isPlain_iff.mp hb with ⟨n, rfl⟩ | ⟨t, rfl⟩
  · simp only [plainOrder, Double.totalOrder, plainRankOrder, compareLex, compareOn, rankKind,
      rankDouble, rankText, rankString, ReflOrd.compare_self, hempty, Ordering.then_eq,
      Ordering.eq_then]
  · rfl
  · rfl
  · simp only [plainOrder, plainRankOrder, compareLex, compareOn, rankKind, rankDouble, rankText,
      rankString, ReflOrd.compare_self, Ordering.eq_then]

/-- Only equal plain values tie in their order. -/
theorem eq_of_plainOrder {a b : Json} (ha : isPlain a = true) (hb : isPlain b = true)
    (h : plainOrder a b = .eq) : a = b := by
  rcases isPlain_iff.mp ha with ⟨m, rfl⟩ | ⟨s, rfl⟩ <;>
    rcases isPlain_iff.mp hb with ⟨n, rfl⟩ | ⟨t, rfl⟩
  · have htext := LawfulEqOrd.eq_of_compare (Ordering.then_eq_eq.mp h).2
    rw [Json.Number.text_injective htext]
  · contradiction
  · contradiction
  · have hnatural : Text.naturalOrder s t = .eq := h
    rw [LawfulEqCmp.eq_of_compare hnatural]

end Plain

section Arrange

variable {items items' : List Json}

theorem arrange_perm (items : List Json) : (arrange items).Perm items := by
  unfold arrange
  split
  · exact sortBy_perm _ _
  · split
    · exact sortBy_perm _ _
    · exact List.Perm.refl _

theorem isNamed_iff :
    isNamed items = true ↔ items ≠ [] ∧ ∀ v ∈ items, ∃ name, v.get? "name" = some name := by
  simp [isNamed, Option.isSome_iff_exists]

theorem not_isNamed_of_isPlain (h : ∀ v ∈ items, isPlain v = true) : isNamed items = false := by
  rw [← Bool.not_eq_true, isNamed_iff]
  rintro ⟨hne, hnamed⟩
  obtain ⟨v, rest, rfl⟩ := List.exists_cons_of_ne_nil hne
  obtain ⟨name, hname⟩ := hnamed v List.mem_cons_self
  rcases isPlain_iff.mp (h v List.mem_cons_self) with ⟨n, rfl⟩ | ⟨s, rfl⟩ <;>
    simp [Json.get?, Json.members?] at hname

/-- The arrangement of named objects does not depend on where they stood. -/
theorem arrange_named (hnamed : ∀ v ∈ items, ∃ name, v.get? "name" = some name)
    (htrees : ∀ v ∈ items, v.IsTree) (h : items.Perm items') : arrange items = arrange items' := by
  by_cases hne : items = []
  · subst hne
    rw [List.nil_perm.mp h]
  · have hne' : items' ≠ [] := by
      rintro rfl
      exact hne (List.perm_nil.mp h)
    have hnamed' : ∀ v ∈ items', ∃ name, v.get? "name" = some name :=
      fun v hv => hnamed v (h.mem_iff.mpr hv)
    rw [arrange, arrange, if_pos (isNamed_iff.mpr ⟨hne, hnamed⟩),
      if_pos (isNamed_iff.mpr ⟨hne', hnamed'⟩)]
    exact sortBy_eq_of_perm
      (fun a ha b hb => eq_of_namedOrder (htrees a ha) (htrees b hb)) h

/-- The arrangement of plain values does not depend on where they stood. -/
theorem arrange_plain (hplain : ∀ v ∈ items, isPlain v = true) (h : items.Perm items') :
    arrange items = arrange items' := by
  have hplain' : ∀ v ∈ items', isPlain v = true := fun v hv => hplain v (h.mem_iff.mpr hv)
  have hranks {l : List Json} (hl : ∀ v ∈ l, isPlain v = true) :
      sortBy plainOrder l = sortBy plainRankOrder l :=
    sortBy_congr fun a ha b hb => plainOrder_eq_plainRankOrder (hl a ha) (hl b hb)
  rw [arrange, arrange, not_isNamed_of_isPlain hplain, not_isNamed_of_isPlain hplain',
    if_neg Bool.false_ne_true, if_neg Bool.false_ne_true, if_pos (List.all_eq_true.mpr hplain),
    if_pos (List.all_eq_true.mpr hplain'), hranks hplain, hranks hplain']
  refine sortBy_eq_of_perm (fun a ha b hb heq => ?_) h
  rw [← plainOrder_eq_plainRankOrder (hplain a ha) (hplain b hb)] at heq
  exact eq_of_plainOrder (hplain a ha) (hplain b hb) heq

end Arrange

end ApiScreens.Canonical
