import ApiScreens.Proofs.Outcome
import Mathlib.Data.List.Forall2

/-!
# Lists related item by item

What stands in one of two lists that are related item by item has a partner in the other. Searching
and sorting two such lists alike and going through them in step keep what they make related.
-/

namespace ApiScreens

section Pointwise

variable {α β : Type} {R S : α → β → Prop} {l : List α} {l' : List β}

theorem eq_of_forall₂ {l₁ l₂ : List β} (hunique : ∀ a b c, R a b → S a c → b = c)
    (h₁ : List.Forall₂ R l l₁) (h₂ : List.Forall₂ S l l₂) : l₁ = l₂ := by
  induction h₁ generalizing l₂ with
  | nil =>
      cases h₂
      rfl
  | cons hab _ ih =>
      cases h₂ with
      | cons hac hrest => rw [hunique _ _ _ hab hac, ih hrest]

theorem exists_of_forall₂ (h : List.Forall₂ R l l') {a : α} (ha : a ∈ l) : ∃ b ∈ l', R a b := by
  induction h with
  | nil => contradiction
  | @cons _ b _ _ hab _ ih =>
      rcases List.mem_cons.mp ha with rfl | ha
      · exact ⟨b, List.mem_cons_self, hab⟩
      · obtain ⟨c, hc, hac⟩ := ih ha
        exact ⟨c, List.mem_cons_of_mem _ hc, hac⟩

theorem forall₂_with_mem (h : List.Forall₂ R l l') :
    List.Forall₂ (fun a b => R a b ∧ a ∈ l ∧ b ∈ l') l l' := by
  rw [List.forall₂_iff_zip] at h ⊢
  refine ⟨h.1, ?_⟩
  intro a b hab
  exact ⟨h.2 hab, List.of_mem_zip hab⟩

theorem forall₂_congr_of_mem (h : ∀ a ∈ l, ∀ b, R a b ↔ S a b) :
    List.Forall₂ R l l' ↔ List.Forall₂ S l l' := by
  constructor
  · intro hR
    exact (forall₂_with_mem hR).imp fun a b hab => (h a hab.2.1 b).mp hab.1
  · intro hS
    exact (forall₂_with_mem hS).imp fun a b hab => (h a hab.2.1 b).mpr hab.1

theorem forall₂_and_iff :
    List.Forall₂ (fun a b => R a b ∧ S a b) l l' ↔ List.Forall₂ R l l' ∧ List.Forall₂ S l l' := by
  constructor
  · intro h
    exact ⟨h.imp fun _ _ => And.left, h.imp fun _ _ => And.right⟩
  · rintro ⟨hR, hS⟩
    exact hR.mp (fun _ _ => And.intro) hS

/-- A list is related to some list if each of its items is related to something. -/
theorem exists_forall₂_iff : (∃ l', List.Forall₂ R l l') ↔ ∀ a ∈ l, ∃ b, R a b := by
  constructor
  · rintro ⟨l', h⟩ a ha
    obtain ⟨b, -, hab⟩ := exists_of_forall₂ h ha
    exact ⟨b, hab⟩
  · intro h
    induction l with
    | nil => exact ⟨[], .nil⟩
    | cons a rest ih =>
        obtain ⟨⟨b, hab⟩, hrest⟩ := List.forall_mem_cons.mp h
        obtain ⟨l', hl'⟩ := ih hrest
        exact ⟨b :: l', .cons hab hl'⟩

/-- Sorting keeps lists related if their orders compare related items alike. -/
theorem forall₂_mergeSort {le : α → α → Bool} {le' : β → β → Bool} (h : List.Forall₂ R l l')
    (hle : ∀ a a' b b', R a b → R a' b' → le a a' = le' b b') :
    List.Forall₂ R (l.mergeSort le) (l'.mergeSort le') := by
  -- Both are the sides of one list of pairs, sorted by either side.
  obtain ⟨hlength, hpairs⟩ := List.forall₂_iff_zip.mp h
  have hleft : ((l.zip l').mergeSort fun p q => le p.1 q.1).map Prod.fst = l.mergeSort le := by
    rw [List.map_mergeSort (s := le) fun _ _ _ _ => rfl, List.map_fst_zip (Nat.le_of_eq hlength)]
  have hright : ((l.zip l').mergeSort fun p q => le p.1 q.1).map Prod.snd = l'.mergeSort le' := by
    rw [List.map_mergeSort (s := le') fun p hp q hq => hle _ _ _ _ (hpairs hp) (hpairs hq),
      List.map_snd_zip (Nat.le_of_eq hlength.symm)]
  rw [← hleft, ← hright, List.forall₂_map_left_iff, List.forall₂_map_right_iff, List.forall₂_same]
  intro p hp
  exact hpairs ((List.mergeSort_perm _ _).mem_iff.mp hp)

theorem rel_find? {p : α → Bool} {q : β → Bool} (h : List.Forall₂ R l l')
    (hpq : ∀ a b, R a b → p a = q b) : Option.Rel R (l.find? p) (l'.find? q) := by
  induction h with
  | nil => exact .none
  | @cons a b _ _ hab _ ih =>
      rw [List.find?_cons, List.find?_cons, hpq a b hab]
      split
      · exact .some hab
      · exact ih

/-- Two runs are the same if items in the same place do the same. -/
theorem foldlM_eq_of_forall₂ {ε γ : Type} {step : γ → α → Except ε γ} {step' : γ → β → Except ε γ}
    (h : List.Forall₂ (fun a b => ∀ x, step x a = step' x b) l l') (init : γ) :
    l.foldlM step init = l'.foldlM step' init := by
  induction h generalizing init with
  | nil => rfl
  | cons hab _ ih =>
      rw [List.foldlM_cons, List.foldlM_cons, hab]
      exact bind_congr fun next => ih next

/-- Two runs over related items keep what they make related if every step does. -/
theorem foldlM_related {ε γ δ : Type} {S : γ → δ → Prop} {step : γ → α → Except ε γ}
    {step' : δ → β → Except ε δ} {init c : γ} {init' d : δ} (h : List.Forall₂ R l l')
    (hinit : S init init') (hrun : l.foldlM step init = .ok c)
    (hrun' : l'.foldlM step' init' = .ok d)
    (hstep : ∀ a b x y x' y', R a b → S x y → step x a = .ok x' → step' y b = .ok y' →
      S x' y') : S c d := by
  induction h generalizing init init' with
  | nil =>
      obtain rfl := Except.ok.inj hrun
      obtain rfl := Except.ok.inj hrun'
      exact hinit
  | cons hab _ ih =>
      rw [List.foldlM_cons] at hrun hrun'
      obtain ⟨next, hnext, hrun⟩ := bind_eq_ok.mp hrun
      obtain ⟨next', hnext', hrun'⟩ := bind_eq_ok.mp hrun'
      exact ih (hstep _ _ _ _ _ _ hab hinit hnext hnext') hrun hrun'

end Pointwise

section Options

variable {α β γ δ κ : Type} {R : α → β → Prop} {S : γ → δ → Prop}

theorem rel_bind {a : Option α} {b : Option β} {f : α → Option γ} {g : β → Option δ}
    (h : Option.Rel R a b) (hfg : ∀ x y, R x y → Option.Rel S (f x) (g y)) :
    Option.Rel S (a.bind f) (b.bind g) := by
  cases h with
  | none => exact .none
  | some hxy => exact hfg _ _ hxy

/-- What is there in both may be related in another way by what it is. -/
theorem rel_imp {S : α → β → Prop} {a : Option α} {b : Option β} (h : Option.Rel R a b)
    (himp : ∀ x y, a = some x → b = some y → R x y → S x y) : Option.Rel S a b := by
  cases h with
  | none => exact .none
  | some hxy => exact .some (himp _ _ rfl rfl hxy)

theorem isSome_eq_of_rel {a : Option α} {b : Option β} (h : Option.Rel R a b) :
    a.isSome = b.isSome := by
  cases h <;> rfl

variable {f : κ → Option α} {g : κ → Option β} {keys : List κ}

theorem rel_findSome? (h : ∀ k ∈ keys, Option.Rel R (f k) (g k)) :
    Option.Rel R (keys.findSome? f) (keys.findSome? g) := by
  induction keys with
  | nil => exact .none
  | cons k rest ih =>
      obtain ⟨hk, hrest⟩ := List.forall_mem_cons.mp h
      rw [List.findSome?_cons, List.findSome?_cons]
      generalize f k = a at hk
      generalize g k = b at hk
      cases hk with
      | none => exact ih hrest
      | some hab => exact .some hab

theorem forall₂_filterMap (h : ∀ k ∈ keys, Option.Rel R (f k) (g k)) :
    List.Forall₂ R (keys.filterMap f) (keys.filterMap g) := by
  induction keys with
  | nil => exact .nil
  | cons k rest ih =>
      obtain ⟨hk, hrest⟩ := List.forall_mem_cons.mp h
      rw [List.filterMap_cons, List.filterMap_cons]
      generalize f k = a at hk
      generalize g k = b at hk
      cases hk with
      | none => exact ih hrest
      | some hab => exact .cons hab (ih hrest)

end Options

end ApiScreens
