import ApiScreens.Proofs.Document.CanonicalForm
import ApiScreens.Proofs.Pointwise

/-!
# Parts of documents with equal canonical forms

Documents with equal canonical forms have the same members up to their canonical forms, apart from
those that carry no meaning, and the same items up to their canonical forms and their order.
-/

namespace ApiScreens

namespace Canonical

open Json (Members)

variable {v w : Json} {key : String}

section Forms

theorem members?_canonicalize (v : Json) :
    (canonicalize v).members? = v.members?.map canonicalizeMembers := by
  cases v <;> rfl

theorem items?_canonicalize (v : Json) :
    (canonicalize v).items? = v.items?.map fun items => arrange (items.map canonicalize) := by
  cases v with
  | array items => simp [canonicalize, Json.items?, canonicalizeItems_eq_map]
  | _ => rfl

theorem string?_canonicalize (v : Json) : (canonicalize v).string? = v.string? := by
  cases v <;> rfl

theorem isObject_canonicalize (v : Json) : (canonicalize v).isObject = v.isObject := by
  cases v <;> rfl

theorem arrange_nil : arrange [] = [] :=
  List.perm_nil.mp (arrange_perm [])

theorem membersAt_canonicalize (hkey : key ∉ silentKeys) (v : Json) :
    (canonicalize v).membersAt key = canonicalizeMembers (v.membersAt key) := by
  unfold Json.membersAt
  rw [get?_canonicalize hkey]
  cases v.get? key with
  | none => rfl
  | some u =>
      rw [Option.map_some, Option.bind_some, members?_canonicalize, Option.bind_some]
      cases u.members? <;> rfl

theorem itemsAt_canonicalize (hkey : key ∉ silentKeys) (v : Json) :
    (canonicalize v).itemsAt key = arrange ((v.itemsAt key).map canonicalize) := by
  unfold Json.itemsAt
  rw [get?_canonicalize hkey]
  cases v.get? key with
  | none => exact arrange_nil.symm
  | some u =>
      rw [Option.map_some, Option.bind_some, items?_canonicalize, Option.bind_some]
      cases u.items? with
      | none => exact arrange_nil.symm
      | some items => rfl

end Forms

/-- Two lists of members agree on those that canonical forms leave out. -/
def SameSilent (members members' : Members) : Prop :=
  ∀ key ∈ silentKeys, (members.get? key).map canonicalize = (members'.get? key).map canonicalize

section Parts

theorem sameSilent_of_keys {members members' : Members} (h : ∀ m ∈ members, m.1 ∉ silentKeys)
    (h' : ∀ m ∈ members', m.1 ∉ silentKeys) : SameSilent members members' := by
  intro key hkey
  have hnone {members : Members} (h : ∀ m ∈ members, m.1 ∉ silentKeys) :
      members.get? key = none := by
    rw [Option.eq_none_iff_forall_ne_some]
    intro v hv
    exact h _ (Keyed.mem_of_get? hv) hkey
  rw [hnone h, hnone h']

theorem get?_congr (hkey : key ∉ silentKeys) (h : canonicalize v = canonicalize w) :
    (v.get? key).map canonicalize = (w.get? key).map canonicalize := by
  rw [← get?_canonicalize hkey, ← get?_canonicalize hkey, h]

theorem isSome_get?_congr (hkey : key ∉ silentKeys) (h : canonicalize v = canonicalize w) :
    (v.get? key).isSome = (w.get? key).isSome := by
  rw [← Option.isSome_map, get?_congr hkey h, Option.isSome_map]

theorem string?_get?_congr (hkey : key ∉ silentKeys) (h : canonicalize v = canonicalize w) :
    (v.get? key).bind Json.string? = (w.get? key).bind Json.string? := by
  have hform (v : Json) :
      (v.get? key).bind Json.string? = ((canonicalize v).get? key).bind Json.string? := by
    rw [get?_canonicalize hkey]
    cases v.get? key with
    | none => rfl
    | some u => exact (string?_canonicalize u).symm
  rw [hform v, hform w, h]

/-- Lists of members with equal canonical forms that agree on the members left out have the same
members up to their canonical forms. -/
theorem map_canonicalize_eq_of_members {members members' : Members} (hkeys : members.Ascending)
    (hkeys' : members'.Ascending) (h : canonicalizeMembers members = canonicalizeMembers members')
    (hsilent : SameSilent members members') :
    members.map (fun m => (m.1, canonicalize m.2)) =
      members'.map fun m => (m.1, canonicalize m.2) := by
  refine Keyed.eq_of_get? (Keyed.ascending_map.mpr hkeys) (Keyed.ascending_map.mpr hkeys') ?_
  intro key
  rw [Keyed.get?_map, Keyed.get?_map]
  by_cases hkey : key ∈ silentKeys
  · exact hsilent key hkey
  · have hobjects : canonicalize (.object members) = canonicalize (.object members') := by
      rw [canonicalize, canonicalize, h]
    exact get?_congr hkey hobjects

theorem Same.of_canonicalize_eq (hv : v.IsTree) (hw : w.IsTree)
    (h : canonicalize v = canonicalize w) : Same v w := by
  have hform := same_canonicalize hv
  rw [h] at hform
  exact hform.symm.trans (same_canonicalize hw)

/-- Trees with equal canonical texts are the same documents. -/
theorem Same.of_text_eq (hv : v.IsTree) (hw : w.IsTree) (h : text v = text w) : Same v w := by
  have hv' := (same_canonicalize hv).isTree.1
  have hw' := (same_canonicalize hw).isTree.1
  exact .of_canonicalize_eq hv hw (hv'.eq_of_canonicalText hw' h)

/-- The same documents have the same value under a key that carries meaning, or none. -/
theorem Same.rel_get? (hkey : key ∉ silentKeys) (h : Same v w) :
    Option.Rel Same (v.get? key) (w.get? key) := by
  have hforms := get?_congr hkey h.canonicalize_eq
  cases hu : v.get? key with
  | none =>
      rw [hu, eq_comm, Option.map_none, Option.map_eq_none_iff] at hforms
      rw [hforms]
      exact .none
  | some u =>
      rw [hu, eq_comm, Option.map_some, Option.map_eq_some_iff] at hforms
      obtain ⟨x, hx, hform⟩ := hforms
      rw [hx]
      exact .some (.of_canonicalize_eq (h.isTree.1.get? hu) (h.isTree.2.get? hx) hform.symm)

/-- The same documents have the same members under a key, in pairs, if they agree on those left
out. -/
theorem Same.membersAt (hkey : key ∉ silentKeys) (h : Same v w)
    (hsilent : SameSilent (v.membersAt key) (w.membersAt key)) :
    List.Forall₂ (fun m n => m.1 = n.1 ∧ Same m.2 n.2 ∧ m ∈ v.membersAt key ∧
      n ∈ w.membersAt key) (v.membersAt key) (w.membersAt key) := by
  obtain ⟨hkeys, hparts⟩ := h.isTree.1.membersAt key
  obtain ⟨hkeys', hparts'⟩ := h.isTree.2.membersAt key
  have hmembers :
      canonicalizeMembers (v.membersAt key) = canonicalizeMembers (w.membersAt key) := by
    rw [← membersAt_canonicalize hkey, ← membersAt_canonicalize hkey, h.canonicalize_eq]
  have hforms := map_canonicalize_eq_of_members hkeys hkeys' hmembers hsilent
  rw [← List.forall₂_eq_eq_eq, List.forall₂_map_left_iff, List.forall₂_map_right_iff] at hforms
  apply (forall₂_with_mem hforms).imp
  rintro m n ⟨hform, hm, hn⟩
  obtain ⟨hname, hvalue⟩ := Prod.mk.inj hform
  exact ⟨hname, Same.of_canonicalize_eq (hparts m hm) (hparts' n hn) hvalue, hm, hn⟩

/-- The items under a key are the same up to their canonical forms and their order. -/
theorem itemsAt_perm (hkey : key ∉ silentKeys) (h : canonicalize v = canonicalize w) :
    ((v.itemsAt key).map canonicalize).Perm ((w.itemsAt key).map canonicalize) := by
  have harranged := arrange_perm ((v.itemsAt key).map canonicalize)
  rw [← itemsAt_canonicalize hkey, h, itemsAt_canonicalize hkey] at harranged
  exact harranged.symm.trans (arrange_perm _)

/-- The strings under a key are the same up to their order. -/
theorem textsAt_perm (hkey : key ∉ silentKeys) (h : canonicalize v = canonicalize w) :
    (v.textsAt key).Perm (w.textsAt key) := by
  have htexts (items : List Json) :
      items.filterMap Json.string? = (items.map canonicalize).filterMap Json.string? := by
    simp [List.filterMap_map, string?_canonicalize]
  unfold Json.textsAt
  rw [htexts, htexts (w.itemsAt key)]
  exact (itemsAt_perm hkey h).filterMap _

end Parts

end Canonical

end ApiScreens
