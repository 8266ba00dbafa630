import ApiScreens.Document.Reference
import ApiScreens.Proofs.Json.Tree
import ApiScreens.Proofs.Outcome
import ApiScreens.Proofs.Pointwise

/-!
# Unfolding of documents

A document unfolds to what is left when every reference is replaced by what its target unfolds to.
A value has at most one unfolding, and what the replacement of references answers is an unfolding.
-/

namespace ApiScreens.Reference

open Json (Members Pointer isLocalReference)

/-- What a value of a document unfolds to. -/
inductive Unfolds (root : Json) : Json → Json → Prop
  | null : Unfolds root .null .null
  | bool (b) : Unfolds root (.bool b) (.bool b)
  | number (n) : Unfolds root (.number n) (.number n)
  | string (s) : Unfolds root (.string s) (.string s)
  | array {items items' : List Json} (length : items.length = items'.length)
      (parts : ∀ v w, (v, w) ∈ items.zip items' → Unfolds root v w) :
      Unfolds root (.array items) (.array items')
  | object {members members' : Members} (plain : (Json.object members).reference? = none)
      (keys : members.map Prod.fst = members'.map Prod.fst)
      (parts : ∀ m n, (m, n) ∈ members.zip members' → Unfolds root m.2 n.2) :
      Unfolds root (.object members) (.object members')
  | reference {members : Members} {s : String} {target r : Json}
      (reference : (Json.object members).reference? = some s) (here : isLocalReference s = true)
      (found : root.target? s = some target) (inner : Unfolds root target r) :
      Unfolds root (.object members) r

section Lists

theorem forall₂_items {R : Json → Json → Prop} {items items' : List Json} :
    List.Forall₂ R items items' ↔
      items.length = items'.length ∧ ∀ v w, (v, w) ∈ items.zip items' → R v w :=
  List.forall₂_iff_zip.trans
    ⟨fun ⟨hlen, h⟩ => ⟨hlen, fun _ _ => h⟩, fun ⟨hlen, h⟩ => ⟨hlen, fun hp => h _ _ hp⟩⟩

theorem forall₂_members {R : String × Json → String × Json → Prop} {members members' : Members} :
    List.Forall₂ (fun m n => m.1 = n.1 ∧ R m n) members members' ↔
      members.map Prod.fst = members'.map Prod.fst ∧
        ∀ m n, (m, n) ∈ members.zip members' → R m n := by
  induction members generalizing members' with
  | nil => cases members' <;> simp
  | cons m rest ih =>
      cases members' with
      | nil => simp
      | cons n rest' =>
          rw [List.forall₂_cons, ih, List.map_cons, List.map_cons, List.cons.injEq]
          constructor
          · rintro ⟨⟨hkey, hmn⟩, hkeys, hrest⟩
            refine ⟨⟨hkey, hkeys⟩, fun m' n' h => ?_⟩
            rcases List.mem_cons.mp h with h | h
            · obtain ⟨rfl, rfl⟩ := Prod.mk.inj h
              exact hmn
            · exact hrest m' n' h
          · rintro ⟨⟨hkey, hkeys⟩, hall⟩
            exact ⟨⟨hkey, hall m n List.mem_cons_self⟩, hkeys,
              fun m' n' h => hall m' n' (List.mem_cons_of_mem _ h)⟩

end Lists

section Expansion

variable {follow : Pointer → String → Except Diagnostic Json} {place : Pointer}

theorem expand_array (items : List Json) :
    expand follow place (.array items) = (expandItems follow place 0 items).map .array := by
  rw [expand]
  cases expandItems follow place 0 items <;> rfl

theorem expand_object {members : Members} (h : (Json.object members).reference? = none) :
    expand follow place (.object members) = (expandMembers follow place members).map .object := by
  rw [expand, h]
  cases expandMembers follow place members <;> rfl

theorem expand_reference {members : Members} {s : String}
    (h : (Json.object members).reference? = some s) :
    expand follow place (.object members) = follow place s := by
  rw [expand, h]

theorem forall₂_of_expandItems {items items' : List Json} {index : Nat}
    (h : expandItems follow place index items = .ok items') :
    List.Forall₂ (fun v w => ∃ place, expand follow place v = .ok w) items items' := by
  induction items generalizing items' index with
  | nil =>
      obtain rfl := Except.ok.inj h
      exact List.Forall₂.nil
  | cons v rest ih =>
      rw [expandItems] at h
      obtain ⟨w, hw, h⟩ := bind_eq_ok.mp h
      obtain ⟨rest', hrest, h⟩ := bind_eq_ok.mp h
      obtain rfl := Except.ok.inj h
      exact List.Forall₂.cons ⟨_, hw⟩ (ih hrest)

theorem expandItems_of_forall₂ {items items' : List Json}
    (h : List.Forall₂ (fun v w => ∀ place, expand follow place v = .ok w) items items')
    (index : Nat) : expandItems follow place index items = .ok items' := by
  induction h generalizing index with
  | nil => rfl
  | cons hv _ ih =>
      rw [expandItems, hv, ih]
      rfl

theorem forall₂_of_expandMembers {members members' : Members}
    (h : expandMembers follow place members = .ok members') :
    List.Forall₂ (fun m n => m.1 = n.1 ∧ ∃ place, expand follow place m.2 = .ok n.2)
      members members' := by
  induction members generalizing members' with
  | nil =>
      obtain rfl := Except.ok.inj h
      exact List.Forall₂.nil
  | cons m rest ih =>
      rw [expandMembers] at h
      obtain ⟨w, hw, h⟩ := bind_eq_ok.mp h
      obtain ⟨rest', hrest, h⟩ := bind_eq_ok.mp h
      obtain rfl := Except.ok.inj h
      exact List.Forall₂.cons ⟨rfl, _, hw⟩ (ih hrest)

theorem expandMembers_of_forall₂ {members members' : Members}
    (h : List.Forall₂ (fun m n => m.1 = n.1 ∧ ∀ place, expand follow place m.2 = .ok n.2)
      members members') :
    expandMembers follow place members = .ok members' := by
  induction h with
  | nil => rfl
  | @cons m n _ _ hm _ ih =>
      obtain ⟨hkey, hm⟩ := hm
      rw [expandMembers, hm, ih, hkey]
      rfl

end Expansion

section Soundness

variable {root : Json}

/-- What following a reference answers is what its target is rewritten to. -/
theorem follow_eq_ok {inner : List String → Pointer → Json → Except Diagnostic Json}
    {chain : List String} {place : Pointer} {s : String} {r : Json}
    (h : follow root inner chain place s = .ok r) :
    isLocalReference s = true ∧
      ∃ target pointer, root.target? s = some target ∧ inner (chain ++ [s]) pointer target = .ok r := by
  unfold follow at h
  split at h
  · contradiction
  · rename_i hlocal
    split at h
    · contradiction
    · split at h
      · rename_i pointer target _ htarget
        exact ⟨by simpa using hlocal, target, pointer, htarget, h⟩
      · contradiction

/-- A rewriting that replaces references by unfoldings of their targets unfolds. -/
theorem unfolds_of_expand {follow : Pointer → String → Except Diagnostic Json}
    (hfollow : ∀ place s r, follow place s = .ok r → isLocalReference s = true ∧
      ∃ target, root.target? s = some target ∧ Unfolds root target r)
    {place : Pointer} {v r : Json} (h : expand follow place v = .ok r) : Unfolds root v r := by
  induction v generalizing place r with
  | null =>
      obtain rfl := Except.ok.inj h
      exact Unfolds.null
  | bool b =>
      obtain rfl := Except.ok.inj h
      exact Unfolds.bool b
  | number n =>
      obtain rfl := Except.ok.inj h
      exact Unfolds.number n
  | string s =>
      obtain rfl := Except.ok.inj h
      exact Unfolds.string s
  | array items ih =>
      rw [expand_array] at h
      obtain ⟨items', hitems, rfl⟩ := map_eq_ok.mp h
      obtain ⟨hlen, hparts⟩ := forall₂_items.mp (forall₂_of_expandItems hitems)
      apply Unfolds.array hlen
      intro v w hvw
      obtain ⟨place, hw⟩ := hparts v w hvw
      exact ih v (List.of_mem_zip hvw).1 hw
  | object members ih =>
      cases href : (Json.object members).reference? with
      | none =>
          rw [expand_object href] at h
          obtain ⟨members', hmembers, rfl⟩ := map_eq_ok.mp h
          obtain ⟨hkeys, hparts⟩ := forall₂_members.mp (forall₂_of_expandMembers hmembers)
          apply Unfolds.object href hkeys
          intro m n hmn
          obtain ⟨place, hn⟩ := hparts m n hmn
          exact ih m (List.of_mem_zip hmn).1 hn
      | some s =>
          rw [expand_reference href] at h
          obtain ⟨hlocal, target, htarget, hinner⟩ := hfollow place s r h
          exact Unfolds.reference href hlocal htarget hinner

/-- What the replacement of references answers is an unfolding. -/
theorem unfolds_of_resolveAt {fuel : Nat} {chain : List String} {place : Pointer} {v r : Json}
    (h : resolveAt root fuel chain place v = .ok r) : Unfolds root v r := by
  induction fuel generalizing chain place v r with
  | zero =>
      apply unfolds_of_expand _ h
      intro place s r hs
      obtain ⟨_, _, _, _, hinner⟩ := follow_eq_ok hs
      contradiction
  | succ fuel ih =>
      apply unfolds_of_expand _ h
      intro place s r hs
      obtain ⟨hlocal, target, pointer, htarget, hinner⟩ := follow_eq_ok hs
      exact ⟨hlocal, target, htarget, ih hinner⟩

end Soundness

section Unfolding

variable {root v r r' : Json}

/-- What a reference unfolds to is what its target unfolds to. -/
theorem Unfolds.of_reference {s : String} {target : Json} (h : Unfolds root v r)
    (href : v.reference? = some s) (hfound : root.target? s = some target) :
    Unfolds root target r := by
  cases h with
  | object hplain =>
      rw [href] at hplain
      contradiction
  | reference href' _ hfound' hinner =>
      rw [href] at href'
      obtain rfl := Option.some.inj href'
      rw [hfound] at hfound'
      obtain rfl := Option.some.inj hfound'
      exact hinner
  | _ => contradiction

/-- A value has at most one unfolding. -/
theorem Unfolds.unique (h : Unfolds root v r) (h' : Unfolds root v r') : r = r' := by
  induction h generalizing r' with
  | null | bool _ | number _ | string _ =>
      cases h'
      rfl
  | @array items items₁ hlen _ ih =>
      cases h' with
      | array hlen' hparts =>
          have heq := eq_of_forall₂ (fun v w w' hw hw' => hw hw')
            (forall₂_items.mpr ⟨hlen, ih⟩) (forall₂_items.mpr ⟨hlen', hparts⟩)
          rw [heq]
  | @object members members₁ hplain hkeys _ ih =>
      cases h' with
      | object hplain' hkeys' hparts =>
          have heq := eq_of_forall₂
            (fun m n n' hn hn' => Prod.ext (hn.1.symm.trans hn'.1) (hn.2 hn'.2))
            (forall₂_members.mpr ⟨hkeys, ih⟩) (forall₂_members.mpr ⟨hkeys', hparts⟩)
          rw [heq]
      | reference href => rw [hplain] at href; contradiction
  | reference href _ hfound _ ih => exact ih (h'.of_reference href hfound)

end Unfolding

end ApiScreens.Reference
