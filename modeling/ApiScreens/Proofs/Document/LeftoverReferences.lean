import ApiScreens.Proofs.Document.Resolution
import ApiScreens.Proofs.Document.ResolvedRules

/-!
# References that are left over

A node is taken for a reference by what it holds before its members are rewritten. So a node whose
member for references is itself replaced, and by a string, becomes a reference that nothing replaces
any more. No other node leaves a reference, and a document without references is left as it is.
-/

namespace ApiScreens.Reference

open Json (Members)
open Relation (ReflTransGen)

/-- The nodes of a value. -/
inductive Within (v : Json) : Json → Prop
  | self : Within v v
  | item {items : List Json} {w : Json} (mem : w ∈ items) (inner : Within v w) :
      Within v (.array items)
  | member {members : Members} {m : String × Json} (mem : m ∈ members)
      (inner : Within v m.2) : Within v (.object members)

/-- No node of the value is a reference. -/
def ReferenceFree (r : Json) : Prop := ∀ v, Within v r → v.reference? = none

/-- A node that is no reference, but becomes one. -/
def BecomesReference (root u : Json) (s : String) : Prop :=
  u.reference? = none ∧ ∃ w, u.get? "$ref" = some w ∧ Unfolds root w (.string s)

section Nodes

variable {root v r : Json} {s : String}

/-- The references of a value are those of its nodes. -/
theorem mem_all_iff : s ∈ all r ↔ ∃ v, Within v r ∧ v.reference? = some s := by
  constructor
  · intro h
    induction r with
    | array items ih =>
        obtain ⟨w, hw, hs⟩ := mem_all_array.mp h
        obtain ⟨v, hv, href⟩ := ih w hw hs
        exact ⟨v, .item hw hv, href⟩
    | object members ih =>
        rcases mem_all_object.mp h with href | ⟨m, hm, hs⟩
        · exact ⟨_, .self, href⟩
        · obtain ⟨v, hv, href⟩ := ih m hm hs
          exact ⟨v, .member hm hv, href⟩
    | _ => contradiction
  · rintro ⟨v, hv, href⟩
    induction hv with
    | self =>
        cases v with
        | object members => exact mem_all_object.mpr (Or.inl href)
        | _ => contradiction
    | item hmem _ ih => exact mem_all_array.mpr ⟨_, hmem, ih⟩
    | member hmem _ ih => exact mem_all_object.mpr (Or.inr ⟨_, hmem, ih⟩)

theorem referenceFree_iff : ReferenceFree r ↔ all r = [] := by
  rw [List.eq_nil_iff_forall_not_mem]
  constructor
  · intro h s hs
    obtain ⟨v, hv, href⟩ := mem_all_iff.mp hs
    rw [h v hv] at href
    contradiction
  · intro h v hv
    by_contra hne
    obtain ⟨s, href⟩ := Option.ne_none_iff_exists'.mp hne
    exact h s (mem_all_iff.mpr ⟨v, hv, href⟩)

end Nodes

section Left

variable {root v r : Json} {s : String}

/-- A node that the unfolding of the value needs becomes a reference. -/
def Leaves (root v : Json) (s : String) : Prop :=
  ∃ u, ReflTransGen (Needs root) v u ∧ BecomesReference root u s

theorem leaves_iff :
    Leaves root v s ↔ BecomesReference root v s ∨ ∃ c, Needs root v c ∧ Leaves root c s := by
  constructor
  · rintro ⟨u, hsteps, hu⟩
    rcases hsteps.cases_head with rfl | ⟨c, hneeds, hrest⟩
    · exact Or.inl hu
    · exact Or.inr ⟨c, hneeds, u, hrest, hu⟩
  · rintro (h | ⟨c, hneeds, u, hsteps, hu⟩)
    · exact ⟨v, .refl, h⟩
    · exact ⟨u, .head hneeds hsteps, hu⟩

theorem becomesReference_iff {u u' : Json} (h : Unfolds root u u') (hplain : u.reference? = none) :
    BecomesReference root u s ↔ u'.reference? = some s := by
  have hmember := Subset.Unfolds.get? h hplain "$ref"
  rw [reference?_eq_some_iff, BecomesReference]
  generalize u.get? "$ref" = a at hmember ⊢
  generalize u'.get? "$ref" = b at hmember ⊢
  cases hmember with
  | none => simp
  | @some w w' hw =>
      constructor
      · rintro ⟨_, _, ⟨rfl⟩, hstring⟩
        rw [hw.unique hstring]
      · rintro ⟨rfl⟩
        exact ⟨hplain, w, rfl, hw⟩

/-- The references of what a value unfolds to are those that its nodes become. -/
theorem Unfolds.mem_all_iff (h : Unfolds root v r) : s ∈ all r ↔ Leaves root v s := by
  induction h with
  | null | bool _ | number _ | string _ =>
      rw [leaves_iff]
      constructor
      · exact fun h => absurd h List.not_mem_nil
      · rintro (⟨_, _, h, _⟩ | ⟨_, h, _⟩) <;> contradiction
  | @array items items' hlength parts ih =>
      have hpairs := forall₂_items.mpr ⟨hlength, ih⟩
      rw [mem_all_array, leaves_iff]
      constructor
      · rintro ⟨w, hw, hs⟩
        obtain ⟨v, hv, hvw⟩ := exists_of_forall₂ hpairs.flip hw
        exact Or.inr ⟨v, .item hv, hvw.mp hs⟩
      · rintro (⟨_, _, h, _⟩ | ⟨_, ⟨hv⟩, hleaves⟩)
        · contradiction
        · obtain ⟨w, hw, hvw⟩ := exists_of_forall₂ hpairs hv
          exact ⟨w, hw, hvw.mpr hleaves⟩
  | @object members members' hplain hkeys parts ih =>
      have hpairs := forall₂_members.mpr ⟨hkeys, ih⟩
      rw [mem_all_object, leaves_iff,
        ← becomesReference_iff (Unfolds.object hplain hkeys parts) hplain]
      refine or_congr_right ⟨?_, ?_⟩
      · rintro ⟨n, hn, hs⟩
        obtain ⟨m, hm, _, hmn⟩ := exists_of_forall₂ hpairs.flip hn
        exact ⟨m.2, .member hplain hm, hmn.mp hs⟩
      · rintro ⟨_, hneeds, hleaves⟩
        cases hneeds with
        | member _ hm =>
            obtain ⟨n, hn, _, hmn⟩ := exists_of_forall₂ hpairs hm
            exact ⟨n, hn, hmn.mpr hleaves⟩
        | target href _ =>
            rw [hplain] at href
            contradiction
  | @reference members t target r href hlocal hfound inner ih =>
      -- A reference needs its target and nothing else; its own members are dropped.
      rw [ih, @leaves_iff root (.object members)]
      constructor
      · exact fun h => Or.inr ⟨target, .target href hfound, h⟩
      · rintro (⟨hplain, _⟩ | ⟨_, hneeds, hleaves⟩)
        · rw [href] at hplain
          contradiction
        · cases hneeds with
          | member hplain _ =>
              rw [href] at hplain
              contradiction
          | target href' hfound' =>
              rw [href] at href'
              obtain rfl := Option.some.inj href'
              rw [hfound] at hfound'
              obtain rfl := Option.some.inj hfound'
              exact hleaves

/-- A value without references unfolds to itself, whatever the document. -/
theorem Unfolds.of_free (h : all v = []) : Unfolds root v v := by
  induction v with
  | null => exact .null
  | bool b => exact .bool b
  | number n => exact .number n
  | string t => exact .string t
  | array items ih =>
      have hparts (w : Json) (hw : w ∈ items) : Unfolds root w w :=
        ih w hw (Subset.free_of_subset h fun s hs => mem_all_array.mpr ⟨w, hw, hs⟩)
      obtain ⟨hlength, hitems⟩ := forall₂_items.mp (List.forall₂_same.mpr hparts)
      exact .array hlength hitems
  | object members ih =>
      have hpairs : List.Forall₂ (fun m n => m.1 = n.1 ∧ Unfolds root m.2 n.2) members members :=
        List.forall₂_same.mpr fun m hm => ⟨rfl, ih m hm (Subset.free_of_mem h hm)⟩
      obtain ⟨hkeys, hmembers⟩ := forall₂_members.mp hpairs
      exact .object (Subset.reference?_of_free h) hkeys hmembers

/-- A document without references is left as it is. -/
theorem resolve_of_free (h : all r = []) : resolve r = .ok r :=
  resolveAt_of_unfolds (.of_free h) (bounded_start r) (List.Subset.refl _) nofun ""

/-- The references of a resolved document are those that its nodes become. -/
theorem mem_all_of_resolve (h : resolve root = .ok r) : s ∈ all r ↔ Leaves root root s :=
  (unfolds_of_resolveAt h).mem_all_iff

end Left

/-- A resolved document has no references exactly if no node that the document's unfolding needs
becomes one; resolving it again changes nothing then. -/
theorem referenceFree_of_resolve {root r : Json} (h : resolve root = .ok r) :
    (ReferenceFree r ↔
      ∀ u s, ReflTransGen (Needs root) root u → ¬ BecomesReference root u s) ∧
    (ReferenceFree r → resolve r = .ok r) := by
  constructor
  · rw [referenceFree_iff, List.eq_nil_iff_forall_not_mem]
    constructor
    · intro hfree u s hsteps hu
      exact hfree s ((mem_all_of_resolve h).mpr ⟨u, hsteps, hu⟩)
    · intro hnone s hs
      obtain ⟨u, hsteps, hu⟩ := (mem_all_of_resolve h).mp hs
      exact hnone u s hsteps hu
  · intro hfree
    exact resolve_of_free (referenceFree_iff.mp hfree)

/-- A document with a reference beside a node whose member for references has this value. -/
def besideReference (v : Json) : Json :=
  .object [("a", .object [("$ref", v)]), ("b", .object [("$ref", .string "#/y")]),
    ("x", .string "#/y"), ("y", .null)]

theorem referenceFree_of_resolve_null :
    let root := besideReference .null
    let r : Json := .object [("a", .object [("$ref", .null)]), ("b", .null), ("x", .string "#/y"),
      ("y", .null)]
    resolve root = .ok r ∧
    (ReferenceFree r ↔
      ∀ u s, ReflTransGen (Needs root) root u → ¬ BecomesReference root u s) ∧
    ReferenceFree r ∧ resolve r = .ok r := by
  intro root r
  have h : resolve root = .ok r := by rfl
  obtain ⟨hiff, hagain⟩ := referenceFree_of_resolve h
  have hfree : ReferenceFree r := referenceFree_iff.mpr (by rfl)
  exact ⟨h, hiff, hfree, hagain hfree⟩

/-- A node whose member for references is replaced by a string is left as a reference. -/
theorem replaced_reference_is_left :
    ¬ ∀ root r, root.IsTree → resolve root = .ok r → ReferenceFree r ∧ resolve r = .ok r := by
  intro h
  let inner : Json := .object [("$ref", .string "#/x")]
  let left : Json := .object [("$ref", .string "#/y")]
  have hresolve : resolve (besideReference inner) =
      .ok (.object [("a", left), ("b", .null), ("x", .string "#/y"), ("y", .null)]) := by rfl
  obtain ⟨hfree, _⟩ := h _ _ (by decide) hresolve
  have hleft : left.reference? = none :=
    hfree left (.member List.mem_cons_self .self)
  contradiction

end ApiScreens.Reference
