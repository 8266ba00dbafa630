import ApiScreens.Proofs.Api.Declarations
import ApiScreens.Proofs.Document.CombiningKeywords
import ApiScreens.Proofs.Json.Location
import ApiScreens.Proofs.Json.Pruning

/-!
# Documents are validated path by path

The validation of a path reads the path itself and what references name. As long as no reference
names the paths or something in them, other paths can be left out of the document, and other methods
of the path, and the references that are left name what they named. So the violations of a document
are those of its paths, each found as if it were alone, and the same holds of the methods of a path.
-/

namespace ApiScreens

namespace Reference

/-- A change that leaves out members, here or further down: it adds no reference, it makes no
string, and no tokens lead to a node where they did not before. -/
structure Prunes (f : Json → Json) : Prop where
  references : ∀ v, all (f v) ⊆ all v
  strings : ∀ v s, f v = .string s → v = .string s
  missing : ∀ v tokens, v.descend? tokens = none → (f v).descend? tokens = none

section Pruning

variable {f g : Json → Json}

theorem Prunes.comp (hf : Prunes f) (hg : Prunes g) : Prunes (f ∘ g) where
  references v := List.Subset.trans (hf.references (g v)) (hg.references v)
  strings v s h := hg.strings v s (hf.strings (g v) s h)
  missing v tokens h := hf.missing (g v) tokens (hg.missing v tokens h)

theorem prunes_restrict (keep : String → Bool) : Prunes (Json.restrict keep) where
  references v := by
    cases v with
    | object members =>
        intro s hs
        rcases mem_all_object.mp hs with href | ⟨m, hm, hs⟩
        · rw [reference?_eq_some_iff] at href
          have hget := (Json.get?_restrict keep (.object members) "$ref").symm.trans href
          split at hget
          · exact mem_all_object.mpr (Or.inl (reference?_eq_some_iff.mpr hget))
          · contradiction
        · exact mem_all_object.mpr (Or.inr ⟨m, List.mem_of_mem_filter hm, hs⟩)
    | _ => exact List.Subset.refl _
  strings v s h := by
    cases v with
    | object members => contradiction
    | _ => exact h
  missing v tokens h := by
    cases tokens with
    | nil => contradiction
    | cons token rest =>
        rw [Json.descend?_cons] at h ⊢
        rcases Json.child?_restrict keep v token with hnone | hsame
        · rw [hnone, Option.bind_none]
        · rwa [hsame]

theorem Prunes.modifyAt (hf : Prunes f) (key : String) : Prunes (Json.modifyAt key f) where
  references v := by
    cases v with
    | object members =>
        intro s hs
        rcases mem_all_object.mp hs with href | ⟨m, hm, hs⟩
        · rw [reference?_eq_some_iff] at href
          have hget := (Json.get?_modifyAt (.object members) key "$ref" f).symm.trans href
          refine mem_all_object.mpr (Or.inl (reference?_eq_some_iff.mpr ?_))
          split at hget
          · obtain ⟨w, hw, hstring⟩ := Option.map_eq_some_iff.mp hget
            rw [hw, hf.strings w s hstring]
          · exact hget
        · rcases Keyed.mem_modify hm with hm | ⟨w, hw, rfl⟩
          · exact mem_all_object.mpr (Or.inr ⟨m, hm, hs⟩)
          · exact mem_all_object.mpr (Or.inr ⟨(key, w), hw, hf.references w hs⟩)
    | _ => exact List.Subset.refl _
  strings v s h := by
    cases v with
    | object members => contradiction
    | _ => exact h
  missing v tokens h := by
    cases tokens with
    | nil => contradiction
    | cons token rest =>
        rw [Json.descend?_cons] at h ⊢
        rcases Json.child?_modifyAt v key token f with ⟨-, hchanged⟩ | hsame
        · rw [hchanged]
          cases hchild : v.child? token with
          | none => rfl
          | some w =>
              rw [hchild, Option.bind_some] at h
              exact hf.missing w rest h
        · rwa [hsame]

end Pruning

/-- A reference that names the member of the root under a key, or a node inside that member. -/
def NamesInside (root : Json) (key s : String) : Prop :=
  ∃ pointer tokens target, Json.referencePointer? s = some pointer ∧
    Json.Pointer.tokens? pointer = some (key :: tokens) ∧ root.target? s = some target

end Reference

namespace Subset

open Json (Pointer isLocalReference)
open Reference (all NamesInside Prunes)

/-- A document that has less than another one, and in which the references that are left name what
they name there. -/
structure Narrows (root' root : Json) : Prop where
  references : all root' ⊆ all root
  targets : NamesAlike root' root

/-- Members may be left out of a value that references do not look into. -/
theorem narrows_modifyAt {root : Json} {f : Json → Json} {key : String} (hf : Prunes f)
    (h : ∀ s ∈ all root, ¬ NamesInside root key s) : Narrows (root.modifyAt key f) root where
  references := (hf.modifyAt key).references root
  targets := by
    intro s hs hlocal
    have hmem := (hf.modifyAt key).references root hs
    obtain ⟨pointer, token, tokens, -, hpointer, htokens⟩ :=
      Json.exists_pointer_of_isLocalReference hlocal
    have htarget (v : Json) : v.target? s = v.descend? (token :: tokens) := by
      rw [Json.target?, hpointer, Option.bind_some, Json.lookup?, htokens, Option.bind_some]
    cases hfound : root.target? s with
    | none =>
        rw [htarget] at hfound ⊢
        exact ((hf.modifyAt key).missing root _ hfound).symm
    | some target =>
        rcases Json.child?_modifyAt root key token f with ⟨rfl, -⟩ | hsame
        · exact absurd ⟨pointer, tokens, target, hpointer, htokens, hfound⟩ (h s hmem)
        · rw [← hfound, htarget, htarget, Json.descend?_cons, Json.descend?_cons, hsame]

section Narrowing

variable {root root' v : Json}

theorem Narrows.schemaViolations (h : Narrows root' root) (hv : all v ⊆ all root')
    (place : Pointer) : schemaViolations root' place v = schemaViolations root place v := by
  have hroot := List.Subset.trans hv h.references
  -- A bound that is enough for both documents.
  let n := (all root').length + (all root).length
  have hless : scanAt root n place v ⟨[], []⟩ =
      scanAt root' (all root').length place v ⟨[], []⟩ :=
    scanAt_eq_of_alike h.targets hv (Nat.le_add_right _ _) place (Reference.bounded_start root')
  have hsame : scanAt root n place v ⟨[], []⟩ = scanAt root (all root).length place v ⟨[], []⟩ :=
    scanAt_eq_of_le hroot (Nat.le_add_left _ _) place (Reference.bounded_start root)
  rw [Subset.schemaViolations, Subset.schemaViolations, ← hless, hsame]

theorem Narrows.dereference (h : Narrows root' root) (hv : all v ⊆ all root') (place : Pointer) :
    dereference root' v place = dereference root v place := by
  unfold Subset.dereference
  split
  · rfl
  · rename_i s href
    cases hlocal : isLocalReference s with
    | false => rfl
    | true => rw [h.targets s (hv (mem_all_of_reference? href)) hlocal]

theorem Narrows.responseViolations (h : Narrows root' root) (hv : all v ⊆ all root')
    (place : Pointer) (code : String) :
    responseViolations root' v place code = responseViolations root v place code := by
  unfold Subset.responseViolations
  cases hcode : v.get? code with
  | none => rfl
  | some response =>
      have hresponse := List.Subset.trans (all_subset_of_get? hcode) hv
      have hnode := all_dereference_subset hresponse (Pointer.push place code)
      simp only [← h.dereference hresponse]
      cases hschema : getPath? (Subset.dereference root' response (Pointer.push place code)).1
          ["content", jsonMediaType, "schema"] with
      | none => rfl
      | some schema =>
          exact h.schemaViolations (List.Subset.trans (all_subset_of_getPath? hschema) hnode) _

theorem Narrows.operationViolations (h : Narrows root' root) (hv : all v ⊆ all root')
    (method : Method) (place : Pointer) :
    operationViolations root' method v place = operationViolations root method v place := by
  have hresponses : all ((v.get? "responses").getD .null) ⊆ all root' := by
    cases hfound : v.get? "responses" with
    | none => exact List.nil_subset _
    | some responses => exact List.Subset.trans (all_subset_of_get? hfound) hv
  have hcodes : Subset.responseViolations root' ((v.get? "responses").getD .null)
        (Pointer.push place "responses") =
      Subset.responseViolations root ((v.get? "responses").getD .null)
        (Pointer.push place "responses") :=
    funext (h.responseViolations hresponses _)
  simp only [Subset.operationViolations, hcodes]

/-- The violations of the operation that a path has for a method. -/
def methodViolations (root : Json) (path : String) (item : Json) (method : Method) :
    List Diagnostic :=
  match item.get? method.key with
  | some operation => operationViolations root method operation
      (Pointer.push (Pointer.ofTokens ["paths", path]) method.key)
  | none => []

theorem pathViolations_eq (root : Json) (path : String) (item : Json) :
    pathViolations root path item = parameterViolations path (Pointer.ofTokens ["paths", path]) ++
      Method.all.flatMap (methodViolations root path item) := rfl

theorem Narrows.pathViolations (h : Narrows root' root) (hv : all v ⊆ all root') (path : String) :
    pathViolations root' path v = pathViolations root path v := by
  have hmethods (method : Method) :
      methodViolations root' path v method = methodViolations root path v method := by
    unfold methodViolations
    cases hmethod : v.get? method.key with
    | none => rfl
    | some operation =>
        exact h.operationViolations (List.Subset.trans (all_subset_of_get? hmethod) hv) method _
  rw [pathViolations_eq, pathViolations_eq, funext hmethods]

/-- A narrower document has the violations that its paths have in the wider one. -/
theorem Narrows.violations (h : Narrows root' root) :
    violations root' = (paths root').flatMap fun m => Subset.pathViolations root m.1 m.2 :=
  List.flatMap_congr fun m hm => h.pathViolations (all_subset_of_mem_paths hm) m.1

end Narrowing

section Paths

variable {root item : Json} {path : String} {method : Method}

/-- The document with no other path than one. -/
def onlyPath (root : Json) (path : String) : Json :=
  root.modifyAt "paths" (Json.restrict (· == path))

/-- Keeps a method of a path, and what is under no method. -/
def keepsMethod (method : Method) (key : String) : Bool := (Method.ofKey? key).all (· == method)

/-- The document with no other path than one, which has no other method than one. -/
def onlyMethod (root : Json) (path : String) (method : Method) : Json :=
  root.modifyAt "paths"
    (Json.modifyAt path (Json.restrict (keepsMethod method)) ∘ Json.restrict (· == path))

theorem paths_onlyPath (htree : root.IsTree) (h : (path, item) ∈ paths root) :
    paths (onlyPath root path) = [(path, item)] := by
  rw [← Keyed.filter_key (paths_ascending htree) h, paths, onlyPath, Json.get?_modifyAt,
    if_pos rfl, paths]
  cases root.get? "paths" with
  | none => rfl
  | some v => cases v <;> rfl

theorem paths_onlyMethod (htree : root.IsTree) (h : (path, item) ∈ paths root) :
    paths (onlyMethod root path method) = [(path, item.restrict (keepsMethod method))] := by
  have hlone := paths_onlyPath htree h
  have hmodify : paths (onlyMethod root path method) =
      Keyed.modify path (Json.restrict (keepsMethod method)) (paths (onlyPath root path)) := by
    rw [paths, paths, onlyMethod, onlyPath, Json.get?_modifyAt, if_pos rfl, Json.get?_modifyAt,
      if_pos rfl]
    cases root.get? "paths" with
    | none => rfl
    | some v => cases v <;> rfl
  rw [hmodify, hlone, Keyed.modify, if_pos rfl]

/-- A method that is kept has the operation that it had, the others have none. -/
theorem methodViolations_restrict (other : Method) :
    methodViolations root path (item.restrict (keepsMethod method)) other =
      if other = method then methodViolations root path item other else [] := by
  have hkeeps : keepsMethod method other.key = decide (other = method) := by
    cases other <;> rfl
  rw [methodViolations, Json.get?_restrict, hkeeps, methodViolations]
  by_cases h : other = method <;> simp [h]

theorem pathViolations_restrict :
    pathViolations root path (item.restrict (keepsMethod method)) =
      parameterViolations path (Pointer.ofTokens ["paths", path]) ++
        methodViolations root path item method := by
  rw [pathViolations_eq, funext methodViolations_restrict]
  cases method <;> simp [Method.all]

theorem violations_onlyPath (htree : root.IsTree)
    (hapart : ∀ s ∈ all root, ¬ NamesInside root "paths" s) (h : (path, item) ∈ paths root) :
    violations (onlyPath root path) = pathViolations root path item := by
  have hnarrows : Narrows (onlyPath root path) root :=
    narrows_modifyAt (Reference.prunes_restrict _) hapart
  rw [hnarrows.violations, paths_onlyPath htree h, List.flatMap_singleton]

theorem violations_onlyMethod (htree : root.IsTree)
    (hapart : ∀ s ∈ all root, ¬ NamesInside root "paths" s) (h : (path, item) ∈ paths root) :
    violations (onlyMethod root path method) =
      parameterViolations path (Pointer.ofTokens ["paths", path]) ++
        methodViolations root path item method := by
  have hprunes := ((Reference.prunes_restrict (keepsMethod method)).modifyAt path).comp
    (Reference.prunes_restrict (· == path))
  have hnarrows : Narrows (onlyMethod root path method) root := narrows_modifyAt hprunes hapart
  rw [hnarrows.violations, paths_onlyMethod htree h, List.flatMap_singleton,
    pathViolations_restrict]

/-- No violation hides another. The paths of a document ascend by their keys, and its violations are
those that are found when one of them after the other is the only path. Those of a path are its own
and then the ones that its methods contribute, in the order of the methods; each of them contributes
the same when it is the only method. -/
theorem violations_pathwise (htree : root.IsTree)
    (hapart : ∀ s ∈ all root, ¬ NamesInside root "paths" s) :
    (paths root).Ascending ∧
    violations root =
      ((paths root).map Prod.fst).flatMap (fun path => violations (onlyPath root path)) ∧
    ∀ path ∈ (paths root).map Prod.fst, ∃ contribution : Method → List Diagnostic,
      violations (onlyPath root path) =
          parameterViolations path (Pointer.ofTokens ["paths", path]) ++
            [Method.get, .post, .put, .patch, .delete].flatMap contribution ∧
      ∀ method, violations (onlyMethod root path method) =
        parameterViolations path (Pointer.ofTokens ["paths", path]) ++ contribution method := by
  refine ⟨paths_ascending htree, ?_, ?_⟩
  · rw [List.flatMap_map, violations]
    apply List.flatMap_congr
    intro m hm
    exact (violations_onlyPath htree hapart hm).symm
  · intro path hpath
    obtain ⟨⟨key, item⟩, hitem, hkey⟩ := List.mem_map.mp hpath
    obtain rfl : key = path := hkey
    refine ⟨methodViolations root key item, violations_onlyPath htree hapart hitem, ?_⟩
    intro method
    exact violations_onlyMethod htree hapart hitem

end Paths

section Crossing

/-- A response whose schema is behind a reference. -/
def answer (reference : String) : Json :=
  .object [("content", .object [("application/json", .object
    [("schema", .object [("$ref", .string reference)])])])]

/-- Two paths whose operations answer with schemas that refer to each other, and one response behind
a reference that would be inside of the paths if it named something. -/
def crossedDocument : Json :=
  .object [("components", .object [
      ("a", .object [("items", .object [("$ref", .string "#/components/b")]), ("oneOf", .null)]),
      ("b", .object [("allOf", .null), ("items", .object [("$ref", .string "#/components/a")])])]),
    ("paths", .object [
      ("/x/{i}/{j}", .object [
        ("get", .object [("responses", .object [("200", answer "#/components/a")])]),
        ("post", .object [("responses", .object
          [("200", answer "#/components/b"), ("201", answer "#/paths/x")])])]),
      ("/y", .object [("put", .object [("responses", .object
        [("201", answer "#/components/b")])])])])]

theorem violations_pathwise_crossed :
    crossedDocument.IsTree ∧
      (∀ s ∈ all crossedDocument, ¬ NamesInside crossedDocument "paths" s) ∧
      (violations crossedDocument).length = 10 ∧
      violations crossedDocument = violations (onlyPath crossedDocument "/x/{i}/{j}") ++
        violations (onlyPath crossedDocument "/y") ∧
      ∃ contribution : Method → List Diagnostic,
        violations (onlyPath crossedDocument "/y") =
          [Method.get, .post, .put, .patch, .delete].flatMap contribution ∧
        violations (onlyMethod crossedDocument "/y" .put) = contribution .put := by
  have htree : crossedDocument.IsTree := by decide +kernel
  have hkeys : (paths crossedDocument).map Prod.fst = ["/x/{i}/{j}", "/y"] := rfl
  have hapart : ∀ s ∈ all crossedDocument, ¬ NamesInside crossedDocument "paths" s := by
    have hmissing : ∀ s ∈ all crossedDocument, ∀ pointer ∈ Json.referencePointer? s,
        ∀ tokens ∈ Pointer.tokens? pointer, tokens.head? = some "paths" →
          crossedDocument.target? s = none := by
      decide +kernel
    rintro s hs ⟨pointer, tokens, target, hpointer, htokens, htarget⟩
    have hnone := hmissing s hs pointer hpointer _ htokens rfl
    exact Option.some_ne_none target (htarget.symm.trans hnone)
  obtain ⟨-, hpaths, hmethods⟩ := violations_pathwise htree hapart
  obtain ⟨contribution, hlone, hmethod⟩ := hmethods "/y" (by rw [hkeys]; simp)
  rw [hkeys] at hpaths
  have hplain : parameterViolations "/y" (Pointer.ofTokens ["paths", "/y"]) = [] := by
    decide +kernel
  rw [hplain] at hlone hmethod
  refine ⟨htree, hapart, by decide +kernel, ?_, contribution, hlone, hmethod .put⟩
  rw [hpaths]
  simp

end Crossing

end Subset

end ApiScreens
