import ApiScreens.Proofs.Document.Validation

/-!
# Rules of resolved documents

The nodes of a resolved document simulate the nodes of the document that it was resolved from, with
references followed wherever they stand. So a resolved document without references keeps the rules
exactly if the document keeps them with every reference followed, which is more than the validator
looks at.
-/

namespace ApiScreens.Subset

open Json (Members)
open Reference (Unfolds all)
open Relation (ReflTransGen)

section Unfolded

variable {root v v' u u' : Json}

theorem Denotes.unfolds (hu : Denotes root v u) (h : Unfolds root v v') : Unfolds root u v' := by
  induction hu with
  | self _ => exact h
  | reference href _ hfound _ ih => exact ih (h.of_reference href hfound)

theorem exists_denotes (h : Unfolds root v v') : ∃ u, Denotes root v u := by
  induction h with
  | object hplain => exact ⟨_, Denotes.self hplain⟩
  | reference href hlocal hfound _ ih =>
      obtain ⟨u, hu⟩ := ih
      exact ⟨u, Denotes.reference href hlocal hfound hu⟩
  | _ => exact ⟨_, Denotes.self rfl⟩

theorem forall₂_get? {R : Json → Json → Prop} {members members' : Members} (key : String)
    (h : List.Forall₂ (fun m n => m.1 = n.1 ∧ R m.2 n.2) members members') :
    Option.Rel R (Keyed.get? members key) (Keyed.get? members' key) := by
  induction h with
  | nil => exact Option.Rel.none
  | @cons m n _ _ hmn _ ih =>
      by_cases hkey : m.1 = key
      · simpa [Keyed.get?, ← hmn.1, hkey] using Option.Rel.some hmn.2
      · simpa [Keyed.get?, ← hmn.1, hkey] using ih

/-- The members of a value that is no reference unfold one by one. -/
theorem Unfolds.get? (h : Unfolds root u u') (hplain : u.reference? = none) (key : String) :
    Option.Rel (Unfolds root) (u.get? key) (u'.get? key) := by
  cases h with
  | object _ hkeys hparts =>
      exact forall₂_get? key (Reference.forall₂_members.mpr ⟨hkeys, hparts⟩)
  | reference href =>
      rw [href] at hplain
      contradiction
  | _ => exact Option.Rel.none

theorem exists_get? (h : Unfolds root u u') (hplain : u.reference? = none) {key : String}
    {w : Json} (hw : u.get? key = some w) : ∃ w', u'.get? key = some w' ∧ Unfolds root w w' := by
  have hrel := Unfolds.get? h hplain key
  rw [hw] at hrel
  cases hw' : u'.get? key with
  | none => rw [hw'] at hrel; contradiction
  | some w' =>
      rw [hw'] at hrel
      cases hrel with
      | some hunfolds => exact ⟨w', rfl, hunfolds⟩

theorem exists_get?_of_unfolded (h : Unfolds root u u') (hplain : u.reference? = none)
    {key : String} {w' : Json} (hw' : u'.get? key = some w') :
    ∃ w, u.get? key = some w ∧ Unfolds root w w' := by
  have hrel := Unfolds.get? h hplain key
  rw [hw'] at hrel
  cases hw : u.get? key with
  | none => rw [hw] at hrel; contradiction
  | some w =>
      rw [hw] at hrel
      cases hrel with
      | some hunfolds => exact ⟨w, rfl, hunfolds⟩

theorem exists_entry {members : Members} (h : Unfolds root (.object members) u')
    (hplain : (Json.object members).reference? = none) {key : String} {w : Json}
    (hw : (key, w) ∈ members) :
    ∃ members' w', u' = .object members' ∧ (key, w') ∈ members' ∧ Unfolds root w w' := by
  cases h with
  | @object _ members' _ hkeys hparts =>
      obtain ⟨⟨key', w'⟩, hmem, rfl, hunfolds⟩ :=
        exists_of_forall₂ (Reference.forall₂_members.mpr ⟨hkeys, hparts⟩) hw
      exact ⟨members', w', rfl, hmem, hunfolds⟩
  | reference href =>
      rw [href] at hplain
      contradiction

theorem exists_entry_of_unfolded {members' : Members} (h : Unfolds root u (.object members'))
    (hplain : u.reference? = none) {key : String} {w' : Json} (hw' : (key, w') ∈ members') :
    ∃ members w, u = .object members ∧ (key, w) ∈ members ∧ Unfolds root w w' := by
  cases h with
  | @object members _ _ hkeys hparts =>
      obtain ⟨⟨key', w⟩, hmem, rfl, hunfolds⟩ :=
        exists_of_forall₂ (Reference.forall₂_members.mpr ⟨hkeys, hparts⟩).flip hw'
      exact ⟨members, w, rfl, hmem, hunfolds⟩
  | reference href =>
      rw [href] at hplain
      contradiction

theorem isSome_get? (h : Unfolds root u u') (hplain : u.reference? = none) (key : String) :
    (u.get? key).isSome = (u'.get? key).isSome := by
  have hrel := Unfolds.get? h hplain key
  generalize u.get? key = a at hrel ⊢
  generalize u'.get? key = b at hrel ⊢
  cases hrel <;> rfl

/-- What is asked of a node holds of it exactly if it holds of what it unfolds to. -/
theorem allows_iff (h : Unfolds root u u') (hplain : u.reference? = none) (p : Position) :
    p.Allows u ↔ p.Allows u' := by
  cases p with
  | operation method => simp only [Position.Allows, isSome_get? h hplain]
  | responses => simp only [Position.Allows, isSome_get? h hplain]
  | schema =>
      simp only [Position.Allows, ← Option.not_isSome_iff_eq_none, isSome_get? h hplain]
  | tags =>
      cases h with
      | array hlen => simp [Position.Allows, hlen]
      | reference href =>
          rw [href] at hplain
          contradiction
      | _ => simp [Position.Allows]
  | _ => exact Iff.rfl

end Unfolded

section Simulation

variable {root r : Json}

/-- A node of the document and the node without references that stands for it after resolution. -/
structure Stands (root v v' : Json) : Prop where
  unfolds : Unfolds root v v'
  free : all v' = []

theorem reference?_of_free {v : Json} (h : all v = []) : v.reference? = none := by
  cases v with
  | object members =>
      apply Option.eq_none_iff_forall_ne_some.mpr
      intro s hs
      exact List.not_mem_nil (h ▸ Reference.mem_all_object.mpr (Or.inl hs))
  | _ => rfl

/-- A node without references is read as it is. -/
theorem asValidated_of_free {v u : Json} (h : all v = []) (p : Position) :
    asValidated r p v u ↔ u = v := by
  have hplain := reference?_of_free h
  cases p with
  | schema =>
      constructor
      · rintro (_ | ⟨href, _⟩)
        · rfl
        · rw [hplain] at href
          contradiction
      · rintro rfl
        exact Denotes.self hplain
  | response =>
      have hself : (dereference r v "").1 = v := by
        rw [dereference, hplain]
      rw [asValidated, hself]
  | _ => exact Iff.rfl

theorem free_of_subset {v w : Json} (h : all v = []) (hsub : all w ⊆ all v) : all w = [] := by
  rw [h] at hsub
  exact List.subset_nil.mp hsub

theorem free_of_mem {members : Members} (h : all (.object members) = []) {key : String} {w : Json}
    (hw : (key, w) ∈ members) : all w = [] := by
  apply List.eq_nil_iff_forall_not_mem.mpr
  intro s hs
  exact List.not_mem_nil (h ▸ Reference.mem_all_object.mpr (Or.inr ⟨_, hw, hs⟩))

/-- What a node leads to with every reference followed, the node that stands for it leads to. -/
theorem step_resolved {p q : Position} {v v' w : Json} (hv : Stands root v v')
    (h : Step (everywhere root) (p, v) (q, w)) :
    ∃ w', Step (asValidated r) (p, v') (q, w') ∧ Stands root w w' := by
  have hself := (asValidated_of_free (r := r) hv.free p).mpr rfl
  have hfree := hv.free
  cases h with
  | field henter hfound hfield =>
      have hu := Denotes.unfolds henter hv.unfolds
      obtain ⟨w', hw', hunfolds⟩ := exists_get? hu (Denotes.plain henter) hfound
      exact ⟨w', Step.field hself hw' hfield, hunfolds,
        free_of_subset hfree (all_subset_of_get? hw')⟩
  | entry henter hmem hentry =>
      have hu := Denotes.unfolds henter hv.unfolds
      obtain ⟨members', w', rfl, hw', hunfolds⟩ := exists_entry hu (Denotes.plain henter) hmem
      exact ⟨w', Step.entry hself hw' hentry, hunfolds, free_of_mem hfree hw'⟩

/-- What a node leads to that stands for another, that one leads to with every reference followed. -/
theorem step_document {p q : Position} {v v' w' : Json} (hv : Stands root v v')
    (h : Step (asValidated r) (p, v') (q, w')) :
    ∃ w, Step (everywhere root) (p, v) (q, w) ∧ Stands root w w' := by
  obtain ⟨u, hu⟩ := exists_denotes hv.unfolds
  have hunfolds := Denotes.unfolds hu hv.unfolds
  have hfree := hv.free
  cases h with
  | field henter hfound hfield =>
      obtain rfl := (asValidated_of_free hfree p).mp henter
      obtain ⟨w, hw, hrest⟩ := exists_get?_of_unfolded hunfolds (Denotes.plain hu) hfound
      exact ⟨w, Step.field hu hw hfield, hrest, free_of_subset hfree (all_subset_of_get? hfound)⟩
  | entry henter hmem hentry =>
      obtain rfl := (asValidated_of_free hfree p).mp henter
      obtain ⟨members, w, rfl, hw, hrest⟩ :=
        exists_entry_of_unfolded hunfolds (Denotes.plain hu) hmem
      exact ⟨w, Step.entry hu hw hentry, hrest, free_of_mem hfree hmem⟩

theorem steps_resolved {v v' : Json} (hv : Stands root v v') {p : Position} {x : Position × Json}
    (h : ReflTransGen (Step (everywhere root)) (p, v) x) :
    ∃ w', ReflTransGen (Step (asValidated r)) (p, v') (x.1, w') ∧ Stands root x.2 w' := by
  induction h with
  | refl => exact ⟨v', ReflTransGen.refl, hv⟩
  | tail _ hstep ih =>
      obtain ⟨w', hsteps, hw⟩ := ih
      obtain ⟨w'', hstep', hw'⟩ := step_resolved hw hstep
      exact ⟨w'', hsteps.tail hstep', hw'⟩

theorem steps_document {v v' : Json} (hv : Stands root v v') {p : Position} {x : Position × Json}
    (h : ReflTransGen (Step (asValidated r)) (p, v') x) :
    ∃ w, ReflTransGen (Step (everywhere root)) (p, v) (x.1, w) ∧ Stands root w x.2 := by
  induction h with
  | refl => exact ⟨v, ReflTransGen.refl, hv⟩
  | tail _ hstep ih =>
      obtain ⟨w, hsteps, hw⟩ := ih
      obtain ⟨w', hstep', hw'⟩ := step_document hw hstep
      exact ⟨w', hsteps.tail hstep', hw'⟩

/-- A resolved document without references keeps the rules exactly if the document keeps them with
every reference followed. -/
theorem conforms_resolved_iff (h : Stands root root r) :
    Conforms (asValidated r) r ↔ Conforms (everywhere root) root := by
  constructor
  · intro hkeeps q w u hsteps hu
    obtain ⟨w', hsteps', hw⟩ := steps_resolved (r := r) h hsteps
    have hallowed := hkeeps q w' w' hsteps' ((asValidated_of_free hw.free q).mpr rfl)
    exact (allows_iff (Denotes.unfolds hu hw.unfolds) (Denotes.plain hu) q).mpr hallowed
  · intro hkeeps q w' u' hsteps hu'
    obtain ⟨w, hsteps', hw⟩ := steps_document h hsteps
    obtain rfl := (asValidated_of_free hw.free q).mp hu'
    obtain ⟨u, hu⟩ := exists_denotes hw.unfolds
    have hallowed := hkeeps q w u hsteps' hu
    exact (allows_iff (Denotes.unfolds hu hw.unfolds) (Denotes.plain hu) q).mp hallowed

end Simulation

/-- The references that the rules meet stand where the validator follows them. -/
def MetByValidator (root : Json) : Prop :=
  ∀ p v u, ReflTransGen (Step (everywhere root)) (.document, root) (p, v) → Denotes root v u →
    asValidated root p v u

theorem Step.mono {reading reading' : Reading} {x y : Position × Json}
    (h : ∀ u, reading x.1 x.2 u → reading' x.1 x.2 u) (hstep : Step reading x y) :
    Step reading' x y := by
  cases hstep with
  | field henter hfound hfield => exact Step.field (h _ henter) hfound hfield
  | entry henter hmem hentry => exact Step.entry (h _ henter) hmem hentry

/-- Where the validator meets all references, it reads all that the rules ask for. -/
theorem conforms_everywhere_of_met {root : Json} (hmet : MetByValidator root)
    (h : Conforms (asValidated root) root) : Conforms (everywhere root) root := by
  have hsteps (x : Position × Json)
      (hx : ReflTransGen (Step (everywhere root)) (.document, root) x) :
      ReflTransGen (Step (asValidated root)) (.document, root) x := by
    induction hx with
    | refl => exact ReflTransGen.refl
    | @tail y z hy hstep ih =>
        exact ih.tail (Step.mono (fun u hu => hmet y.1 y.2 u hy hu) hstep)
  intro q w u hx hu
  exact h q w u (hsteps _ hx) (hmet q w u hx hu)

/-- What validation says of a document and of what it resolves to: each has no violations exactly if
it keeps the rules as the validator reads it. If no reference is left, the resolved document has none
exactly if the document keeps the rules with every reference followed, as it does if it has no
violations and the validator meets all references. -/
theorem violations_of_resolve {root r : Json} (h : Reference.resolve root = .ok r) :
    (violations root = [] ↔ Conforms (asValidated root) root) ∧
      (violations r = [] ↔ Conforms (asValidated r) r) ∧
      (all r = [] → (violations r = [] ↔ Conforms (everywhere root) root) ∧
        (MetByValidator root → violations root = [] → violations r = [])) := by
  have hroot := violations_eq_nil_iff_conforms root
  have hresolved := violations_eq_nil_iff_conforms r
  refine ⟨hroot, hresolved, ?_⟩
  intro hfree
  have heverywhere := hresolved.trans
    (conforms_resolved_iff ⟨Reference.unfolds_of_resolveAt h, hfree⟩)
  constructor
  · exact heverywhere
  · intro hmet hvalid
    exact heverywhere.mpr (conforms_everywhere_of_met hmet (hroot.mp hvalid))

/-- A response whose schema combines others. -/
def combiningResponse : Json :=
  .object [("content", .object [("application/json", .object [("schema",
    .object [("oneOf", .null)])])])]

/-- A document with a response of success and two values beside the paths. -/
def sampleDocument (response x : Json) : Json :=
  .object [("paths", .object [("/a", .object [("get", .object [("responses",
      .object [("200", response)])])])]),
    ("x", x), ("y", combiningResponse)]

/-- A node that is a reference. -/
def referenceNode (s : String) : Json := .object [("$ref", .string s)]

theorem violations_of_resolve_chained :
    let root := sampleDocument (referenceNode "#/x") (referenceNode "#/y")
    let r := sampleDocument combiningResponse combiningResponse
    Reference.resolve root = .ok r ∧ (violations root = [] ↔ Conforms (asValidated root) root) ∧
      (violations r = [] ↔ Conforms (asValidated r) r) ∧
      (all r = [] → (violations r = [] ↔ Conforms (everywhere root) root) ∧
        (MetByValidator root → violations root = [] → violations r = [])) := by
  intro root r
  have h : Reference.resolve root = .ok r := by rfl
  exact ⟨h, violations_of_resolve h⟩

/-- A response named through two references hides its schema from the validator. -/
theorem chained_response_hides_violation :
    ¬ ∀ root r, violations root = [] → Reference.resolve root = .ok r → violations r = [] := by
  intro h
  have hvalid : violations (sampleDocument (referenceNode "#/x") (referenceNode "#/y")) = [] := by
    decide +kernel
  have hinvalid : violations (sampleDocument combiningResponse combiningResponse) ≠ [] := by
    decide +kernel
  exact hinvalid (h _ _ hvalid rfl)

end ApiScreens.Subset
