import ApiScreens.Proofs.Document.Faults
import ApiScreens.Proofs.Document.ResolvedTree
import ApiScreens.Proofs.Json.Location

/-!
# Faults are reported where they stand

A pointer that is put together on a way through the document, or that a reference states, leads
back to the value at the end of the way. So the pointer of every fault that is reported for a
document leads to a value in the document itself, before references are replaced.
-/

namespace ApiScreens

open Json (Pointer Reaches MemberAt)
open Relation (ReflTransGen)

section Ways

variable {root : Json} {x y : Pointer × Json}

/-- One step of a way keeps the pointer that leads to the value. -/
theorem Json.Reaches.lookup? (htree : root.IsTree) (hcounted : root.IsCounted)
    (h : Reaches root x y) (hx : root.lookup? x.1 = some x.2) :
    root.lookup? y.1 = some y.2 := by
  obtain ⟨tokens, -, hdescend⟩ := lookup?_eq_some_iff.mp hx
  cases h with
  | @item place items i v hfound =>
      have hi : i < items.length := (List.getElem?_eq_some_iff.mp hfound).1
      have hlength : items.length ≤ UInt64.size :=
        (isCounted_array.mp (hcounted.descend? hdescend)).1
      exact lookup?_push_item hx hfound (Nat.lt_of_lt_of_le hi hlength)
  | @member place members m hm =>
      have hascending : members.Ascending := (isTree_object.mp (htree.descend? hdescend)).1
      exact lookup?_push_get? hx ((Keyed.get?_eq_some_iff hascending).mpr hm)
  | target _ hpointer htarget => exact lookup?_of_target? hpointer htarget

/-- The pointer at the end of a way from the root leads to the value there. -/
theorem Json.lookup?_of_reaches (htree : root.IsTree) (hcounted : root.IsCounted)
    (h : ReflTransGen (Reaches root) ("", root) x) : root.lookup? x.1 = some x.2 := by
  induction h with
  | refl => exact lookup?_root root
  | tail _ hstep ih => exact hstep.lookup? htree hcounted ih

end Ways

section Faults

variable {root : Json} {d : Diagnostic}

theorem Subset.Placed.lookup? (htree : root.IsTree) (hcounted : root.IsCounted)
    (h : Subset.Placed root d) : ∃ p v, d.pointer = some p ∧ root.lookup? p = some v ∧
      (d.code = .unsupportedSchemaKeyword → ∃ k ∈ compositionKeywords,
        d.message = (Violation.composition k).message ∧ MemberAt root p k v) := by
  obtain ⟨violation, place, v, rfl, hreach, hkeyword⟩ := h
  have hfound := Json.lookup?_of_reaches htree hcounted hreach
  refine ⟨place, v, rfl, hfound, ?_⟩
  intro hcode
  cases violation with
  | composition k =>
      obtain ⟨hk, parent, u, hparent, hu, rfl⟩ := hkeyword k rfl
      have hlookup := Json.lookup?_of_reaches htree hcounted hparent
      exact ⟨k, hk, rfl, Json.memberAt_push hlookup hu⟩
  | _ => contradiction

theorem Reference.memberAt_of_error (htree : root.IsTree) (hcounted : root.IsCounted)
    (h : resolve root = .error d) : ∃ (e : ReferenceError) (p : Pointer) (s : String),
      d.pointer = some p ∧ d.code = e.code ∧ d.message = e.message ∧ e.refused? = some s ∧
        MemberAt root p "$ref" (.string s) := by
  obtain ⟨e, ⟨place, node⟩, s, hreach, href, hrefused, rfl⟩ := resolve_eq_error h
  have hlookup := Json.lookup?_of_reaches htree hcounted hreach
  exact ⟨e, Pointer.push place "$ref", s, rfl, rfl, rfl, hrefused,
    Json.memberAt_push hlookup (reference?_eq_some_iff.mp href)⟩

/-- Every violation of the subset has a pointer to a value of the document, which for a keyword that
is not supported is the member of an object under the keyword. The fault that stops the replacement
of references has a pointer to the `$ref` member that holds the reference it is about. -/
theorem faults_point_into_document (htree : root.IsTree) (hcounted : root.IsCounted) :
    (∀ d ∈ Subset.violations root, ∃ p v, d.pointer = some p ∧ root.lookup? p = some v ∧
      (d.code = .unsupportedSchemaKeyword → ∃ k ∈ compositionKeywords,
        d.message = (Violation.composition k).message ∧ MemberAt root p k v)) ∧
    ∀ d, Reference.resolve root = .error d → ∃ (e : ReferenceError) (p : Pointer) (s : String),
      d.pointer = some p ∧ d.code = e.code ∧ d.message = e.message ∧ e.refused? = some s ∧
        MemberAt root p "$ref" (.string s) :=
  ⟨fun _ hd => (Subset.placed_of_violations hd).lookup? htree hcounted,
    fun _ herror => Reference.memberAt_of_error htree hcounted herror⟩

/-- A document with keys of slashes and tildes, whose response schema is behind a reference. -/
def tangledDocument : Json :=
  .object [("paths", .object [("/a~b", .object [("get", .object [("responses", .object [("200",
      .object [("content", .object [("application/json", .object
        [("schema", .object [("$ref", .string "#/x~1y")])])])])])])])]),
    ("x/y", .object [("", .array [.null, .object [("$ref", .string "#/none")]]),
      ("oneOf", .null)])]

theorem faults_point_into_document_tangled :
    tangledDocument.IsTree ∧ tangledDocument.IsCounted ∧
      (∃ d ∈ Subset.violations tangledDocument, d.pointer = some "/x~1y/oneOf" ∧
        ∃ k v, d.message = (Violation.composition k).message ∧
          MemberAt tangledDocument "/x~1y/oneOf" k v) ∧
      ∃ d, Reference.resolve tangledDocument = .error d ∧ d.pointer = some "/x~1y//1/$ref" ∧
        ∃ e s, d.message = ReferenceError.message e ∧ e.refused? = some s ∧
          MemberAt tangledDocument "/x~1y//1/$ref" "$ref" (.string s) := by
  have htree : tangledDocument.IsTree := by decide +kernel
  have hcounted : tangledDocument.IsCounted := by simp [tangledDocument, UInt64.size]
  have hviolations : Subset.violations tangledDocument =
      [(Violation.composition "oneOf").diagnostic "/x~1y/oneOf"] := by decide +kernel
  have hresolve : Reference.resolve tangledDocument =
      .error ((ReferenceError.dangling "#/none").diagnostic "/x~1y//1") := by decide +kernel
  have hplace : Pointer.push "/x~1y//1" "$ref" = "/x~1y//1/$ref" := by decide +kernel
  obtain ⟨hreported, hstopped⟩ := faults_point_into_document htree hcounted
  refine ⟨htree, hcounted, ?_, ?_⟩
  · have hmem : (Violation.composition "oneOf").diagnostic "/x~1y/oneOf" ∈
        Subset.violations tangledDocument := by
      rw [hviolations]
      exact List.mem_singleton_self _
    obtain ⟨p, v, hp, -, hkeyword⟩ := hreported _ hmem
    obtain ⟨k, -, hmessage, hmember⟩ := hkeyword rfl
    obtain rfl := Option.some.inj hp
    exact ⟨_, hmem, rfl, k, v, hmessage, hmember⟩
  · obtain ⟨e, p, s, hp, -, hmessage, hrefused, hmember⟩ := hstopped _ hresolve
    obtain rfl := Option.some.inj hp
    rw [hplace] at hmember
    exact ⟨_, hresolve, congrArg some hplace, e, s, hmessage, hrefused, hmember⟩

end Faults

end ApiScreens
