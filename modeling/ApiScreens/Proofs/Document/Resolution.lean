import ApiScreens.Proofs.Document.Unfolding
import Mathlib.Data.List.Nodup
import Mathlib.Data.List.Perm.Subperm
import Mathlib.Logic.Relation

/-!
# Replacement of references is unfolding

The chain of references that a rewriting has followed repeats none and holds only references of the
document, so the bound on its length is never felt. A value that has an unfolding never leads back
to itself, so a chain that would repeat a reference has none.
-/

namespace ApiScreens.Reference

open Json (Members Pointer isLocalReference)
open Relation (ReflTransGen TransGen)

section Occurrences

theorem reference?_eq_some_iff {v : Json} {s : String} :
    v.reference? = some s ↔ v.get? "$ref" = some (.string s) := by
  unfold Json.reference?
  rw [Option.bind_eq_some_iff]
  constructor
  · rintro ⟨w, hw, hs⟩
    cases w with
    | string t => rw [hw, Option.some.inj hs]
    | _ => contradiction
  · exact fun h => ⟨_, h, rfl⟩

theorem mem_all_array {s : String} {items : List Json} :
    s ∈ all (.array items) ↔ ∃ v ∈ items, s ∈ all v := by
  rw [all]
  induction items with
  | nil => simp [allOfItems]
  | cons v rest ih => simp [allOfItems, ih]

theorem mem_all_object {s : String} {members : Members} :
    s ∈ all (.object members) ↔
      (Json.object members).reference? = some s ∨ ∃ m ∈ members, s ∈ all m.2 := by
  have hmembers : s ∈ allOfMembers members ↔ ∃ m ∈ members, s ∈ all m.2 := by
    induction members with
    | nil => simp [allOfMembers]
    | cons m rest ih => simp [allOfMembers, ih]
  rw [all, List.mem_append, hmembers, Option.mem_toList]

theorem all_subset_of_child? {v w : Json} {token : String} (h : v.child? token = some w) :
    all w ⊆ all v := by
  intro s hs
  cases v with
  | array items =>
      obtain ⟨i, _, hi⟩ := Option.bind_eq_some_iff.mp h
      exact mem_all_array.mpr ⟨w, List.mem_of_getElem? hi, hs⟩
  | object members => exact mem_all_object.mpr (Or.inr ⟨_, Keyed.mem_of_get? h, hs⟩)
  | _ => contradiction

theorem all_subset_of_descend? {v w : Json} {tokens : List String}
    (h : v.descend? tokens = some w) : all w ⊆ all v := by
  induction tokens generalizing v with
  | nil =>
      obtain rfl := Option.some.inj h
      exact List.Subset.refl _
  | cons token rest ih =>
      obtain ⟨u, hu, hw⟩ := Option.bind_eq_some_iff.mp h
      exact List.Subset.trans (ih hw) (all_subset_of_child? hu)

/-- All references of the target of a reference are references of the document. -/
theorem all_subset_of_target? {root target : Json} {s : String} (h : root.target? s = some target) :
    all target ⊆ all root := by
  obtain ⟨pointer, _, hlookup⟩ := Option.bind_eq_some_iff.mp h
  obtain ⟨tokens, _, hdescend⟩ := Option.bind_eq_some_iff.mp hlookup
  exact all_subset_of_descend? hdescend

end Occurrences

section Bound

variable {root : Json} {fuel : Nat} {chain : List String}

/-- What holds of every chain that a rewriting follows: it repeats no reference, holds references
of the document only, and may still become as long as all of them. -/
structure Bounded (root : Json) (fuel : Nat) (chain : List String) : Prop where
  nodup : chain.Nodup
  subset : chain ⊆ all root
  enough : (all root).length ≤ fuel + chain.length

theorem bounded_start (root : Json) : Bounded root (all root).length [] :=
  ⟨List.nodup_nil, List.nil_subset _, Nat.le_refl _⟩

theorem Bounded.length_lt (h : Bounded root fuel chain) {s : String} (hs : s ∈ all root)
    (hnew : s ∉ chain) : chain.length < (all root).length := by
  have hnodup : (s :: chain).Nodup := List.nodup_cons.mpr ⟨hnew, h.nodup⟩
  have hsubset : s :: chain ⊆ all root := List.cons_subset.mpr ⟨hs, h.subset⟩
  exact (hnodup.subperm hsubset).length_le

theorem Bounded.mem_of_zero (h : Bounded root 0 chain) {s : String} (hs : s ∈ all root) : s ∈ chain := by
  by_contra hnew
  have hlt := h.length_lt hs hnew
  have henough := h.enough
  omega

/-- Following a new reference keeps the bound. -/
theorem Bounded.cons (h : Bounded root (fuel + 1) chain) {s : String} (hs : s ∈ all root)
    (hnew : s ∉ chain) : Bounded root fuel (s :: chain) where
  nodup := List.nodup_cons.mpr ⟨hnew, h.nodup⟩
  subset := List.cons_subset.mpr ⟨hs, h.subset⟩
  enough := by
    have := h.enough
    rw [List.length_cons]
    omega

theorem Bounded.weaken (h : Bounded root fuel chain) : Bounded root (fuel + 1) chain :=
  ⟨h.nodup, h.subset, by have := h.enough; omega⟩

theorem Bounded.perm (h : Bounded root fuel chain) {chain' : List String}
    (hperm : chain.Perm chain') : Bounded root fuel chain' where
  nodup := hperm.nodup_iff.mp h.nodup
  subset := List.Subset.trans hperm.symm.subset h.subset
  enough := hperm.length_eq ▸ h.enough

theorem Bounded.append (h : Bounded root (fuel + 1) chain) {s : String} (hs : s ∈ all root)
    (hnew : s ∉ chain) : Bounded root fuel (chain ++ [s]) :=
  (h.cons hs hnew).perm (List.perm_append_singleton s chain).symm

end Bound

section Following

variable {root : Json}

/-- How the targets of references are rewritten behind a chain. -/
def rewriteTarget (root : Json) :
    Nat → List String → Pointer → Json → Except Diagnostic Json
  | 0, chain, place, _ => .error ((ReferenceError.circular chain).diagnostic place)
  | fuel + 1, chain, place, target => resolveAt root fuel chain place target

theorem resolveAt_eq_expand (root : Json) (fuel : Nat) (chain : List String) (place : Pointer)
    (v : Json) : resolveAt root fuel chain place v =
      expand (follow root (rewriteTarget root fuel) chain) place v := by
  cases fuel <;> rfl

/-- Following a new local reference rewrites its target. -/
theorem follow_target (inner : List String → Pointer → Json → Except Diagnostic Json)
    {chain : List String} {s : String} {target : Json} (hlocal : isLocalReference s = true)
    (hnew : s ∉ chain) (htarget : root.target? s = some target) (place : Pointer) :
    ∃ pointer, follow root inner chain place s = inner (chain ++ [s]) pointer target := by
  obtain ⟨pointer, hpointer, _⟩ := Option.bind_eq_some_iff.mp htarget
  refine ⟨pointer, ?_⟩
  simp [follow, hlocal, hnew, htarget, hpointer]

theorem follow_congr {inner inner' : List String → Pointer → Json → Except Diagnostic Json}
    {chain : List String} {s : String}
    (h : s ∉ chain → ∀ target, root.target? s = some target → ∀ pointer,
      inner (chain ++ [s]) pointer target = inner' (chain ++ [s]) pointer target)
    (place : Pointer) :
    follow root inner chain place s = follow root inner' chain place s := by
  unfold follow
  split
  · rfl
  · split
    · rfl
    · rename_i hnew
      split
      · rename_i pointer target _ htarget
        exact h (by simpa using hnew) target htarget pointer
      · rfl

theorem expandItems_congr {f g : Pointer → String → Except Diagnostic Json} {items : List Json}
    (h : ∀ v ∈ items, ∀ place, expand f place v = expand g place v) (place : Pointer)
    (index : Nat) : expandItems f place index items = expandItems g place index items := by
  induction items generalizing index with
  | nil => rfl
  | cons v rest ih =>
      rw [expandItems, expandItems, h v List.mem_cons_self,
        ih fun w hw => h w (List.mem_cons_of_mem _ hw)]

theorem expandMembers_congr {f g : Pointer → String → Except Diagnostic Json} {members : Members}
    (h : ∀ m ∈ members, ∀ place, expand f place m.2 = expand g place m.2) (place : Pointer) :
    expandMembers f place members = expandMembers g place members := by
  induction members with
  | nil => rfl
  | cons m rest ih =>
      rw [expandMembers, expandMembers, h m List.mem_cons_self,
        ih fun w hw => h w (List.mem_cons_of_mem _ hw)]

/-- A rewriting depends only on how it follows the references of the value. -/
theorem expand_congr {f g : Pointer → String → Except Diagnostic Json} {v : Json}
    (h : ∀ s ∈ all v, ∀ place, f place s = g place s) (place : Pointer) :
    expand f place v = expand g place v := by
  induction v generalizing place with
  | null => rfl
  | bool b => rfl
  | number n => rfl
  | string s => rfl
  | array items ih =>
      rw [expand_array, expand_array, expandItems_congr fun v hv place =>
        ih v hv (fun s hs => h s (mem_all_array.mpr ⟨v, hv, hs⟩)) place]
  | object members ih =>
      cases href : (Json.object members).reference? with
      | none =>
          rw [expand_object href, expand_object href, expandMembers_congr fun m hm place =>
            ih m hm (fun s hs => h s (mem_all_object.mpr (Or.inr ⟨m, hm, hs⟩))) place]
      | some s =>
          rw [expand_reference href, expand_reference href]
          exact h s (mem_all_object.mpr (Or.inl href)) place

/-- Once a chain may become as long as all references, a greater bound changes nothing. -/
theorem resolveAt_eq_of_le {fuel n : Nat} {chain : List String} {v : Json}
    (hbound : Bounded root fuel chain) (hv : all v ⊆ all root) (hn : fuel ≤ n) (place : Pointer) :
    resolveAt root n chain place v = resolveAt root fuel chain place v := by
  induction fuel generalizing n chain v place with
  | zero =>
      rw [resolveAt_eq_expand, resolveAt_eq_expand]
      refine expand_congr (fun s hs place => follow_congr (fun hnew => ?_) place) place
      exact absurd (hbound.mem_of_zero (hv hs)) hnew
  | succ fuel ih =>
      obtain ⟨n, rfl⟩ : ∃ m, n = m + 1 := ⟨n - 1, by omega⟩
      rw [resolveAt_eq_expand, resolveAt_eq_expand]
      refine expand_congr (fun s hs place => follow_congr (fun hnew target htarget pointer => ?_)
        place) place
      exact ih (hbound.append (hv hs) hnew) (all_subset_of_target? htarget) (by omega) pointer

end Following

section Completeness

variable {root : Json}

/-- What the unfolding of a value needs next: that of an item, of a member or of a target. -/
inductive Needs (root : Json) : Json → Json → Prop
  | item {items : List Json} {v : Json} (mem : v ∈ items) : Needs root (.array items) v
  | member {members : Members} {m : String × Json}
      (plain : (Json.object members).reference? = none) (mem : m ∈ members) :
      Needs root (.object members) m.2
  | target {members : Members} {s : String} {target : Json}
      (reference : (Json.object members).reference? = some s)
      (found : root.target? s = some target) : Needs root (.object members) target

/-- What has an unfolding needs nothing without end. -/
theorem Unfolds.acc {v r : Json} (h : Unfolds root v r) : Acc (Function.swap (Needs root)) v := by
  induction h with
  | null | bool _ | number _ | string _ => exact Acc.intro _ fun w hw => nomatch hw
  | @array items items' hlen _ ih =>
      apply Acc.intro
      intro w hw
      obtain ⟨hmem⟩ | _ | _ := hw
      obtain ⟨_, _, hacc⟩ := exists_of_forall₂ (forall₂_items.mpr ⟨hlen, ih⟩) hmem
      exact hacc
  | @object members members' hplain hkeys _ ih =>
      apply Acc.intro
      intro w hw
      obtain _ | ⟨_, hmem⟩ | ⟨href, _⟩ := hw
      · obtain ⟨_, _, _, hacc⟩ := exists_of_forall₂ (forall₂_members.mpr ⟨hkeys, ih⟩) hmem
        exact hacc
      · rw [hplain] at href
        contradiction
  | @reference members s target r href _ hfound _ ih =>
      apply Acc.intro
      intro w hw
      obtain _ | ⟨hplain, _⟩ | ⟨href', hfound'⟩ := hw
      · rw [href] at hplain
        contradiction
      · rw [href] at href'
        obtain rfl := Option.some.inj href'
        rw [hfound] at hfound'
        exact Option.some.inj hfound' ▸ ih

theorem not_transGen_of_acc {v : Json} (h : Acc (TransGen (Function.swap (Needs root))) v) :
    ¬ TransGen (Needs root) v v := by
  rw [← Relation.transGen_swap]
  induction h with
  | intro v _ ih => exact fun hself => ih v hself hself

/-- What has an unfolding does not need itself. -/
theorem Unfolds.not_needs_self {v r : Json} (h : Unfolds root v r) :
    ¬ TransGen (Needs root) v v :=
  not_transGen_of_acc h.acc.transGen

/-- Every reference of the chain has led to the value. -/
def LeadsTo (root : Json) (chain : List String) (v : Json) : Prop :=
  ∀ s ∈ chain, ∀ target, root.target? s = some target → ReflTransGen (Needs root) target v

theorem LeadsTo.step {chain : List String} {v w : Json} (h : LeadsTo root chain v)
    (hneeds : Needs root v w) : LeadsTo root chain w :=
  fun s hs target htarget => (h s hs target htarget).tail hneeds

/-- A reference whose target has an unfolding is not in the chain that leads to it. -/
theorem LeadsTo.not_mem {chain : List String} {v target r : Json} {s : String}
    (h : LeadsTo root chain v) (hneeds : Needs root v target) (hfound : root.target? s = some target)
    (hunfolds : Unfolds root target r) : s ∉ chain := by
  intro hmem
  have hself : TransGen (Needs root) target target :=
    TransGen.trans_right (h s hmem target hfound) (TransGen.single hneeds)
  exact hunfolds.not_needs_self hself

theorem LeadsTo.append {chain : List String} {v target : Json} {s : String}
    (h : LeadsTo root chain v) (hneeds : Needs root v target)
    (hfound : root.target? s = some target) : LeadsTo root (chain ++ [s]) target := by
  intro s' hs' target' htarget'
  rcases List.mem_append.mp hs' with hs' | hs'
  · exact h.step hneeds s' hs' target' htarget'
  · rw [List.mem_singleton.mp hs', hfound] at htarget'
    exact Option.some.inj htarget' ▸ ReflTransGen.refl

/-- A value that has an unfolding is rewritten to it. -/
theorem resolveAt_of_unfolds {v r : Json} (h : Unfolds root v r) {fuel : Nat}
    {chain : List String} (hbound : Bounded root fuel chain) (hv : all v ⊆ all root)
    (hleads : LeadsTo root chain v) (place : Pointer) :
    resolveAt root fuel chain place v = .ok r := by
  induction h generalizing fuel chain place with
  | null | bool _ | number _ | string _ => rw [resolveAt_eq_expand]; rfl
  | @array items items' hlen _ ih =>
      have hitems : List.Forall₂ (fun v w => ∀ place,
          expand (follow root (rewriteTarget root fuel) chain) place v = .ok w) items items' := by
        apply forall₂_items.mpr
        refine ⟨hlen, ?_⟩
        intro v w hzip place
        have hmem := (List.of_mem_zip hzip).1
        rw [← resolveAt_eq_expand]
        exact ih v w hzip hbound (fun s hs => hv (mem_all_array.mpr ⟨v, hmem, hs⟩))
          (hleads.step (Needs.item hmem)) place
      rw [resolveAt_eq_expand, expand_array, expandItems_of_forall₂ hitems]
      rfl
  | @object members members' hplain hkeys _ ih =>
      have hmembers : List.Forall₂ (fun m n => m.1 = n.1 ∧ ∀ place,
          expand (follow root (rewriteTarget root fuel) chain) place m.2 = .ok n.2)
          members members' := by
        apply forall₂_members.mpr
        refine ⟨hkeys, ?_⟩
        intro m n hzip place
        have hmem := (List.of_mem_zip hzip).1
        rw [← resolveAt_eq_expand]
        exact ih m n hzip hbound (fun s hs => hv (mem_all_object.mpr (Or.inr ⟨m, hmem, hs⟩)))
          (hleads.step (Needs.member hplain hmem)) place
      rw [resolveAt_eq_expand, expand_object hplain, expandMembers_of_forall₂ hmembers]
      rfl
  | @reference members s target r href hlocal hfound hinner ih =>
      have hs : s ∈ all root := hv (mem_all_object.mpr (Or.inl href))
      have hneeds : Needs root (.object members) target := Needs.target href hfound
      -- A chain that held the reference would lead from its target back to it.
      have hnew : s ∉ chain := hleads.not_mem hneeds hfound hinner
      cases fuel with
      | zero => exact absurd (hbound.mem_of_zero hs) hnew
      | succ fuel =>
          rw [resolveAt_eq_expand, expand_reference href]
          obtain ⟨pointer, hpointer⟩ :=
            follow_target (rewriteTarget root (fuel + 1)) hlocal hnew hfound place
          rw [hpointer]
          exact ih (hbound.append hs hnew) (all_subset_of_target? hfound)
            (hleads.append hneeds hfound) pointer

end Completeness

/-- The replacement of references terminates, the bound on its chains being no restriction, and it
answers a value exactly if the document unfolds to it and to nothing else. -/
theorem resolve_eq_ok_iff (root : Json) :
    (∀ n, resolveAt root ((all root).length + n) [] "" root = resolve root) ∧
      ∀ r, resolve root = .ok r ↔ Unfolds root root r ∧ ∀ r', Unfolds root root r' → r' = r := by
  have hstart := bounded_start root
  have hall : all root ⊆ all root := List.Subset.refl _
  constructor
  · intro n
    exact resolveAt_eq_of_le hstart hall (Nat.le_add_right _ n) ""
  · intro r
    constructor
    · intro h
      have hunfolds := unfolds_of_resolveAt h
      exact ⟨hunfolds, fun r' h' => h'.unique hunfolds⟩
    · rintro ⟨hunfolds, _⟩
      exact resolveAt_of_unfolds hunfolds hstart hall nofun ""

end ApiScreens.Reference
