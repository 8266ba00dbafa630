import ApiScreens.Document.Canonical
import ApiScreens.Proofs.Document.LeftoverReferences
import ApiScreens.Proofs.Json.Replacement

/-!
# Inlining references by hand

Where a reference node of a document is replaced by what it names, and no reference leads below that
node, the document resolves as before. References that lead to a node above it, or to the node
itself, name values in which the reference is replaced. Only a string that takes the place of a
member for references makes a difference: it makes a reference of the node around it.
-/

namespace ApiScreens.Reference

open Json (Place Replaced ReplacedBelow)

/-- The node at a place of a document is a reference that names the value, and no reference of the
document leads below it. -/
structure Inlinable (root : Json) (place : Place) (node value : Json) : Prop where
  here : root.at? place = some node
  names : ∃ s, node.reference? = some s ∧ root.target? s = some value
  clear : ∀ s ∈ all root, ∀ p ∈ root.placeOf? s, place <+: p → p = place

/-- The value is a string, and the place is that of a member for references. -/
def MakesReference (place : Place) (value : Json) : Prop :=
  (∃ t, value = .string t) ∧ place.getLast? = some (.member "$ref")

section Replacing

variable {root node value v v' r : Json} {place : Place}

theorem Inlinable.unfolds (h : Inlinable root place node value) (hnode : Unfolds root node r) :
    Unfolds root value r := by
  obtain ⟨s, href, hfound⟩ := h.names
  exact hnode.of_reference href hfound

theorem Inlinable.eq_of_partless (h : Inlinable root place node value)
    (hplain : v.reference? = none) (hpart : ∀ hop, v.part? hop = none)
    (hreplaced : Replaced place node value v v') : v' = v := by
  rcases hreplaced.self_or_below with ⟨rfl, _⟩ | hbelow
  · obtain ⟨s, href, _⟩ := h.names
    rw [hplain] at href
    contradiction
  · exact hbelow.eq_of_partless hpart

/-- A node around the replaced one that is no reference does not become one, unless what it unfolds
to is one already. -/
theorem Inlinable.reference?_eq_none (h : Inlinable root place node value)
    (hunfolds : Unfolds root v r) (hfree : MakesReference place value → ReferenceFree r)
    (hplain : v.reference? = none) (hbelow : ReplacedBelow place node value v v') :
    v'.reference? = none := by
  obtain ⟨s, href, hfound⟩ := h.names
  rcases hbelow.reference?_eq href with heq | ⟨hmember, ⟨t, rfl⟩, hlast⟩
  · rw [heq, hplain]
  · have hrel := Subset.Unfolds.get? hunfolds hplain "$ref"
    rw [hmember] at hrel
    have hbecomes : BecomesReference root v t := by
      refine ⟨hplain, node, hmember, ?_⟩
      generalize r.get? "$ref" = a at hrel
      cases hrel with
      | some hx =>
          cases h.unfolds hx with
          | string _ => exact hx
    have hleft := (becomesReference_iff hunfolds hplain).mp hbecomes
    rw [hfree ⟨⟨t, rfl⟩, hlast⟩ r .self] at hleft
    contradiction

/-- A reference around the replaced node stays as it is. -/
theorem Inlinable.reference?_eq_some (h : Inlinable root place node value) {s : String}
    (href : v.reference? = some s) (hbelow : ReplacedBelow place node value v v') :
    v'.reference? = some s := by
  obtain ⟨s', href', _⟩ := h.names
  rcases hbelow.reference?_eq href' with heq | ⟨hmember, _⟩
  · rw [heq, href]
  · rw [reference?_eq_some_iff.mp href] at hmember
    obtain rfl := Option.some.inj hmember
    contradiction

theorem unfolds_of_reference? {s : String} {target : Json} (href : v.reference? = some s)
    (hlocal : Json.isLocalReference s = true) (hfound : root.target? s = some target)
    (h : Unfolds root target r) : Unfolds root v r := by
  cases v with
  | object members => exact Unfolds.reference href hlocal hfound h
  | _ => contradiction

/-- A value of the document unfolds as before when a reference in it is replaced by what it names,
if the same is done in the document. -/
theorem Unfolds.of_replaced (h : Unfolds root v r) (hinlinable : Inlinable root place node value)
    (hv : all v ⊆ all root) (hfree : MakesReference place value → ReferenceFree r)
    (hreplaced : Replaced place node value v v') :
    Unfolds (root.replaceAt place value) v' r := by
  obtain ⟨s, hnode, hvalue⟩ := hinlinable.names
  -- The induction is on the old unfolding: the new one takes a step less at the replaced node and
  -- the same steps anywhere else, each at a value in which the node may be replaced.
  induction h generalizing v' with
  | null =>
      rw [hinlinable.eq_of_partless rfl (fun _ => rfl) hreplaced]
      exact Unfolds.null
  | bool b =>
      rw [hinlinable.eq_of_partless rfl (fun _ => rfl) hreplaced]
      exact Unfolds.bool b
  | number n =>
      rw [hinlinable.eq_of_partless rfl (fun _ => rfl) hreplaced]
      exact Unfolds.number n
  | string t =>
      rw [hinlinable.eq_of_partless rfl (fun _ => rfl) hreplaced]
      exact Unfolds.string t
  | @array items items' hlength _ ih =>
      have hparts : List.Forall₂ (fun v r => ∀ v', Replaced place node value v v' →
          Unfolds (root.replaceAt place value) v' r) items items' := by
        apply forall₂_items.mpr
        refine ⟨hlength, ?_⟩
        intro v w hzip v' hreplaced
        obtain ⟨hmem, hmem'⟩ := List.of_mem_zip hzip
        apply ih v w hzip _ _ hreplaced
        · exact fun s hs => hv (mem_all_array.mpr ⟨v, hmem, hs⟩)
        · exact fun hmakes u hu => hfree hmakes u (.item hmem' hu)
      rcases hreplaced.self_or_below with ⟨rfl, _⟩ | hbelow
      · contradiction
      · obtain ⟨items'', rfl, hall⟩ := hbelow.array hparts
        obtain ⟨hlength, hparts⟩ := forall₂_items.mp hall
        exact Unfolds.array hlength hparts
  | @object members members' hplain hkeys parts ih =>
      have hparts : List.Forall₂ (fun m n => m.1 = n.1 ∧ ∀ v', Replaced place node value m.2 v' →
          Unfolds (root.replaceAt place value) v' n.2) members members' := by
        apply forall₂_members.mpr
        refine ⟨hkeys, ?_⟩
        intro m n hzip v' hreplaced
        obtain ⟨hmem, hmem'⟩ := List.of_mem_zip hzip
        apply ih m n hzip _ _ hreplaced
        · exact fun s hs => hv (mem_all_object.mpr (Or.inr ⟨m, hmem, hs⟩))
        · exact fun hmakes u hu => hfree hmakes u (.member hmem' hu)
      rcases hreplaced.self_or_below with ⟨rfl, _⟩ | hbelow
      · rw [hplain] at hnode
        contradiction
      · have hnone := hinlinable.reference?_eq_none (Unfolds.object hplain hkeys parts) hfree hplain
          hbelow
        obtain ⟨members'', rfl, hall⟩ := hbelow.object hparts
        obtain ⟨hkeys, hparts⟩ := forall₂_members.mp hall
        exact Unfolds.object hnone hkeys hparts
  | @reference members t target r href hlocal hfound inner ih =>
      have htarget := all_subset_of_target? hfound
      rcases hreplaced.self_or_below with ⟨rfl, rfl⟩ | hbelow
      · -- The value stands where its reference stood.
        rw [href] at hnode
        obtain rfl := Option.some.inj hnode
        rw [hfound] at hvalue
        obtain rfl := Option.some.inj hvalue
        exact ih htarget hfree (Replaced.self _ _ _ _)
      · have ht : t ∈ all root := hv (mem_all_object.mpr (Or.inl href))
        obtain ⟨target', hfound', hreplaced'⟩ :=
          Json.exists_target?_replaceAt hinlinable.here hfound (hinlinable.clear t ht) value
        exact unfolds_of_reference? (hinlinable.reference?_eq_some href hbelow) hlocal hfound'
          (ih htarget hfree hreplaced')

end Replacing

/-- Replacing a reference node by what it names changes nothing in the resolved document, nor in its
canonical text and hash, if no reference leads below the node; and if, where a string takes the
place of a member for references, no reference is left in the resolved document. -/
theorem resolve_replaceAt {root node value r : Json} {place : Place} (h : resolve root = .ok r)
    (hinlinable : Inlinable root place node value)
    (hfree : MakesReference place value → ReferenceFree r) :
    resolve (root.replaceAt place value) = .ok r ∧
      (resolve (root.replaceAt place value)).map Canonical.text = .ok (Canonical.text r) ∧
      (resolve (root.replaceAt place value)).map Canonical.contentHash =
        .ok (Canonical.contentHash r) := by
  have hreplaced : Replaced place node value root (root.replaceAt place value) :=
    Or.inr ⟨place, List.suffix_rfl, hinlinable.here, rfl⟩
  have hunfolds := (unfolds_of_resolveAt h).of_replaced hinlinable (List.Subset.refl _) hfree
    hreplaced
  have hresolve : resolve (root.replaceAt place value) = .ok r :=
    resolveAt_of_unfolds hunfolds (bounded_start _) (List.Subset.refl _) nofun ""
  refine ⟨hresolve, ?_, ?_⟩
  · rw [hresolve]
    rfl
  · rw [hresolve]
    rfl

/-- A document with this value under `b`, to which and into which it refers. -/
def sharedDocument (inner : Json) : Json :=
  .object [("a", .object [("$ref", .string "#/b")]), ("b", .object [("c", inner)]),
    ("d", .object [("e", .null)]), ("f", .object [("$ref", .string "#/b/c")])]

theorem resolve_replaceAt_shared :
    let node : Json := .object [("$ref", .string "#/d")]
    let value : Json := .object [("e", .null)]
    let root := sharedDocument node
    let r : Json := .object [("a", .object [("c", value)]), ("b", .object [("c", value)]),
      ("d", value), ("f", value)]
    resolve root = .ok r ∧ Inlinable root [.member "b", .member "c"] node value ∧
      root.replaceAt [.member "b", .member "c"] value = sharedDocument value ∧
      resolve (sharedDocument value) = .ok r := by
  intro node value root r
  have h : resolve root = .ok r := by rfl
  have hinlinable : Inlinable root [.member "b", .member "c"] node value :=
    ⟨by rfl, ⟨"#/d", by rfl, by rfl⟩, by decide +kernel⟩
  have hfree : MakesReference [.member "b", .member "c"] value → ReferenceFree r := by
    rintro ⟨⟨t, ht⟩, _⟩
    contradiction
  exact ⟨h, hinlinable, by rfl, (resolve_replaceAt h hinlinable hfree).1⟩

/-- A document with a node whose member for references has this value. -/
def nestedReference (inner : Json) : Json :=
  .object [("a", .object [("$ref", inner)]), ("x", .string "#/y"), ("y", .null)]

/-- A string put in the place of a reference under the key of references makes a reference that was
none. -/
theorem inlined_string_makes_reference :
    ¬ ∀ (root node value r : Json) (place : Place), root.IsTree → resolve root = .ok r →
      Inlinable root place node value → resolve (root.replaceAt place value) = .ok r := by
  intro h
  have hinlinable : Inlinable (nestedReference (.object [("$ref", .string "#/x")]))
      [.member "a", .member "$ref"] (.object [("$ref", .string "#/x")]) (.string "#/y") :=
    ⟨by rfl, ⟨"#/x", by rfl, by rfl⟩, by decide +kernel⟩
  have hsame := h _ _ _ (nestedReference (.string "#/y")) _ (by decide) (by rfl) hinlinable
  have hfollowed : resolve (nestedReference (.string "#/y")) =
      .ok (.object [("a", .null), ("x", .string "#/y"), ("y", .null)]) := by rfl
  have hreplace : (nestedReference (.object [("$ref", .string "#/x")])).replaceAt
      [.member "a", .member "$ref"] (.string "#/y") = nestedReference (.string "#/y") := by rfl
  rw [hreplace, hfollowed] at hsame
  have hvalue := Except.ok.inj hsame
  contradiction

end ApiScreens.Reference
