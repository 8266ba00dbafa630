import ApiScreens.Proofs.Document.CanonicalOrder

/-!
# Canonical forms are normal forms

Two documents are the same up to the members that carry no meaning and the order of arrays of named
objects and of plain values exactly if their canonical forms are equal, and the canonical form of a
document is the same document.
-/

namespace ApiScreens.Canonical

open Json (IsTree Members)

/-- The sameness of trees that canonical forms decide: the least equivalence that ignores members
without meaning and the order of named objects and of plain values, wherever they stand. -/
inductive Same : Json → Json → Prop
  | refl {v} (tree : v.IsTree) : Same v v
  | symm {v w} : Same v w → Same w v
  | trans {u v w} : Same u v → Same v w → Same u w
  | silent {before after : Members} {key : String} {v : Json}
      (silent : key = "description" ∨ key = "example" ∨ key = "summary")
      (tree : (Json.object (before ++ (key, v) :: after)).IsTree) :
      Same (.object (before ++ (key, v) :: after)) (.object (before ++ after))
  | named {items items' : List Json} (named : ∀ v ∈ items, ∃ name, v.get? "name" = some name)
      (perm : items.Perm items') (tree : (Json.array items).IsTree) :
      Same (.array items) (.array items')
  | plain {items items' : List Json}
      (plain : ∀ v ∈ items, (∃ n, v = .number n) ∨ ∃ s, v = .string s)
      (perm : items.Perm items') : Same (.array items) (.array items')
  | item {before after : List Json} {v w : Json} (same : Same v w)
      (tree : (Json.array (before ++ v :: after)).IsTree) :
      Same (.array (before ++ v :: after)) (.array (before ++ w :: after))
  | member {before after : Members} {key : String} {v w : Json} (same : Same v w)
      (tree : (Json.object (before ++ (key, v) :: after)).IsTree) :
      Same (.object (before ++ (key, v) :: after)) (.object (before ++ (key, w) :: after))

theorem mem_silentKeys {key : String} :
    key ∈ silentKeys ↔ key = "description" ∨ key = "example" ∨ key = "summary" := by
  simp [silentKeys]

section Trees

variable {before after : Members} {key : String} {v w : Json}

theorem isTree_without (h : (Json.object (before ++ (key, v) :: after)).IsTree) :
    (Json.object (before ++ after)).IsTree := by
  obtain ⟨hkeys, hparts⟩ := Json.isTree_object.mp h
  have hsub : (before ++ after).Sublist (before ++ (key, v) :: after) :=
    (List.Sublist.refl before).append (List.sublist_cons_self _ _)
  exact Json.isTree_object.mpr ⟨hkeys.sublist hsub, fun m hm => hparts m (hsub.subset hm)⟩

theorem isTree_replace_member (h : (Json.object (before ++ (key, v) :: after)).IsTree)
    (hw : w.IsTree) : (Json.object (before ++ (key, w) :: after)).IsTree := by
  obtain ⟨hkeys, hparts⟩ := Json.isTree_object.mp h
  apply Json.isTree_object.mpr
  constructor
  · have hascending {members : Members} :
        members.Ascending ↔ (members.map Prod.fst).Pairwise (· < ·) := List.pairwise_map.symm
    rw [hascending, List.map_append, List.map_cons] at hkeys ⊢
    exact hkeys
  · rw [List.forall_mem_append, List.forall_mem_cons] at hparts ⊢
    exact ⟨hparts.1, hw, hparts.2.2⟩

theorem isTree_replace_item {before after : List Json}
    (h : (Json.array (before ++ v :: after)).IsTree) (hw : w.IsTree) :
    (Json.array (before ++ w :: after)).IsTree := by
  rw [Json.isTree_array, List.forall_mem_append, List.forall_mem_cons] at h ⊢
  exact ⟨h.1, hw, h.2.2⟩

/-- Only trees are the same. -/
theorem Same.isTree (h : Same v w) : v.IsTree ∧ w.IsTree := by
  induction h with
  | refl tree => exact ⟨tree, tree⟩
  | symm _ ih => exact ih.symm
  | trans _ _ ih₁ ih₂ => exact ⟨ih₁.1, ih₂.2⟩
  | silent _ tree => exact ⟨tree, isTree_without tree⟩
  | named _ perm tree =>
      constructor
      · exact tree
      · apply IsTree.array
        intro v hv
        exact Json.isTree_array.mp tree v (perm.mem_iff.mpr hv)
  | @plain items items' plain perm =>
      have htree : ∀ v ∈ items, v.IsTree := by
        intro v hv
        rcases plain v hv with ⟨n, rfl⟩ | ⟨s, rfl⟩
        · exact IsTree.number n
        · exact IsTree.string s
      exact ⟨IsTree.array htree, IsTree.array fun v hv => htree v (perm.mem_iff.mpr hv)⟩
  | item _ tree ih => exact ⟨tree, isTree_replace_item tree ih.2⟩
  | member _ tree ih => exact ⟨tree, isTree_replace_member tree ih.2⟩

end Trees

section Form

/-- The canonical forms of items are the same items, whatever stands before them. -/
theorem same_canonicalizeItems (before items : List Json)
    (hsame : ∀ v ∈ items, v.IsTree → Same (canonicalize v) v)
    (htree : (Json.array (before ++ items)).IsTree) :
    Same (.array (before ++ canonicalizeItems items)) (.array (before ++ items)) := by
  induction items generalizing before with
  | nil => exact Same.refl htree
  | cons v rest ih =>
      have hv : v.IsTree :=
        Json.isTree_array.mp htree v (List.mem_append_right _ List.mem_cons_self)
      have hitem : Same (.array (before ++ v :: rest)) (.array (before ++ canonicalize v :: rest)) :=
        Same.item (hsame v List.mem_cons_self hv).symm htree
      -- The items that are in canonical form already stand before the rest.
      have hsplit (l : List Json) :
          before ++ canonicalize v :: l = (before ++ [canonicalize v]) ++ l := by simp
      have hrest := ih (before ++ [canonicalize v])
        (fun u hu => hsame u (List.mem_cons_of_mem _ hu)) (hsplit rest ▸ hitem.isTree.2)
      rw [← hsplit, ← hsplit] at hrest
      exact hrest.trans hitem.symm

/-- The canonical forms of members are the same members, whatever stands before them. -/
theorem same_canonicalizeMembers (before members : Members)
    (hsame : ∀ m ∈ members, m.2.IsTree → Same (canonicalize m.2) m.2)
    (htree : (Json.object (before ++ members)).IsTree) :
    Same (.object (before ++ canonicalizeMembers members)) (.object (before ++ members)) := by
  induction members generalizing before with
  | nil => exact Same.refl htree
  | cons m rest ih =>
      obtain ⟨key, v⟩ := m
      have hrests : ∀ m ∈ rest, m.2.IsTree → Same (canonicalize m.2) m.2 :=
        fun u hu => hsame u (List.mem_cons_of_mem _ hu)
      rw [canonicalizeMembers]
      split
      · rename_i hkey
        have hdrop := Same.silent (mem_silentKeys.mp hkey) htree
        exact (ih before hrests hdrop.isTree.2).trans hdrop.symm
      · have hv : v.IsTree := (Json.isTree_object.mp htree).2 (key, v)
          (List.mem_append_right _ List.mem_cons_self)
        have hmember : Same (.object (before ++ (key, v) :: rest))
            (.object (before ++ (key, canonicalize v) :: rest)) :=
          Same.member (hsame (key, v) List.mem_cons_self hv).symm htree
        have hsplit (l : Members) :
            before ++ (key, canonicalize v) :: l = (before ++ [(key, canonicalize v)]) ++ l := by
          simp
        have hrest := ih (before ++ [(key, canonicalize v)]) hrests
          (hsplit rest ▸ hmember.isTree.2)
        rw [← hsplit, ← hsplit] at hrest
        exact hrest.trans hmember.symm

theorem same_arrange {items : List Json} (htree : (Json.array items).IsTree) :
    Same (.array (arrange items)) (.array items) := by
  have hperm := (arrange_perm items).symm
  by_cases hnamed : isNamed items = true
  · exact (Same.named (isNamed_iff.mp hnamed).2 hperm htree).symm
  · by_cases hplain : items.all isPlain = true
    · have hitems : ∀ v ∈ items, (∃ n, v = .number n) ∨ ∃ s, v = .string s := by
        intro v hv
        exact isPlain_iff.mp (List.all_eq_true.mp hplain v hv)
      exact (Same.plain hitems hperm).symm
    · rw [arrange, if_neg hnamed, if_neg hplain]
      exact Same.refl htree

/-- The canonical form of a tree is the same document. -/
theorem same_canonicalize {v : Json} (h : v.IsTree) : Same (canonicalize v) v := by
  induction v with
  | null => exact Same.refl h
  | bool b => exact Same.refl h
  | number n => exact Same.refl h
  | string s => exact Same.refl h
  | array items ih =>
      have hitems := same_canonicalizeItems [] items ih h
      exact (same_arrange hitems.isTree.1).trans hitems
  | object members ih => exact same_canonicalizeMembers [] members ih h

end Form

section Forgetting

theorem get?_canonicalize {key : String} (hkey : key ∉ silentKeys) (v : Json) :
    (canonicalize v).get? key = (v.get? key).map canonicalize := by
  cases v with
  | object members =>
      simp only [canonicalize, Json.get?, Json.members?, Option.bind_some]
      induction members with
      | nil => rfl
      | cons m rest ih =>
          obtain ⟨k, v⟩ := m
          by_cases hk : k = key
          · subst hk
            simp [canonicalizeMembers, hkey, Keyed.get?]
          · rw [canonicalizeMembers]
            split
            · simpa [Keyed.get?, hk] using ih
            · simpa [Keyed.get?, hk] using ih
  | _ => rfl

theorem isPlain_canonicalize (v : Json) : isPlain (canonicalize v) = isPlain v := by
  cases v <;> rfl

/-- Same documents have equal canonical forms. -/
theorem Same.canonicalize_eq {v w : Json} (h : Same v w) : canonicalize v = canonicalize w := by
  induction h with
  | refl => rfl
  | symm _ ih => exact ih.symm
  | trans _ _ ih₁ ih₂ => exact ih₁.trans ih₂
  | silent silent _ =>
      simp [canonicalize, canonicalizeMembers_eq, mem_silentKeys.mpr silent]
  | @named items items' named perm tree =>
      simp only [canonicalize, canonicalizeItems_eq_map]
      apply congrArg Json.array
      apply arrange_named _ _ (perm.map canonicalize)
      · rw [List.forall_mem_map]
        intro v hv
        obtain ⟨name, hname⟩ := named v hv
        exact ⟨canonicalize name, by rw [get?_canonicalize (by decide), hname]; rfl⟩
      · rw [List.forall_mem_map]
        intro v hv
        exact (same_canonicalize (Json.isTree_array.mp tree v hv)).isTree.1
  | @plain items items' plain perm =>
      simp only [canonicalize, canonicalizeItems_eq_map]
      apply congrArg Json.array
      apply arrange_plain _ (perm.map canonicalize)
      rw [List.forall_mem_map]
      intro v hv
      rw [isPlain_canonicalize]
      exact isPlain_iff.mpr (plain v hv)
  | item _ _ ih => simp [canonicalize, canonicalizeItems_eq_map, ih]
  | @member before after key v w _ _ ih =>
      by_cases hkey : key ∈ silentKeys
      · simp [canonicalize, canonicalizeMembers_eq, hkey]
      · simp [canonicalize, canonicalizeMembers_eq, hkey, ih]

end Forgetting

/-- The canonical form is a normal form: it is the same document, and documents are the same exactly
if their canonical forms are equal. -/
theorem canonicalize_normal_form {v w : Json} (hv : v.IsTree) (hw : w.IsTree) :
    Same (canonicalize v) v ∧ (canonicalize v = canonicalize w ↔ Same v w) ∧
      canonicalize (canonicalize v) = canonicalize v := by
  have hv' := same_canonicalize hv
  have hw' := same_canonicalize hw
  refine ⟨hv', ?_, hv'.canonicalize_eq⟩
  constructor
  · intro h
    rw [← h] at hw'
    exact hv'.symm.trans hw'
  · exact Same.canonicalize_eq

/-- A document whose named items stand in another order and lack a description is the same. -/
theorem canonicalize_normal_form_reordered :
    let v : Json := .array [.object [("name", .string "b")], .object [("name", .string "a")]]
    let w : Json := .array [.object [("description", .null), ("name", .string "a")],
      .object [("name", .string "b")]]
    v.IsTree ∧ w.IsTree ∧ Same (canonicalize v) v ∧
      (canonicalize v = canonicalize w ↔ Same v w) ∧
      canonicalize (canonicalize v) = canonicalize v := by
  intro v w
  have hv : v.IsTree := by decide
  have hw : w.IsTree := by decide
  exact ⟨hv, hw, canonicalize_normal_form hv hw⟩

end ApiScreens.Canonical
