import ApiScreens.Proofs.Document.SchemaScan

/-!
# Validation decides the rules

A document has no violations exactly if it keeps the rules of the subset, read as the validator
reads it.
-/

namespace ApiScreens.Subset

open Json (Members Pointer)
open Reference (all)

section Places

variable {root v : Json}

theorem keeps_iff_of_reading {reading : Reading} {p : Position} {w : Json}
    (h : ∀ u, reading p v u ↔ u = w) :
    Keeps reading p v ↔ p.Allows w ∧
      (∀ key q c, p.Field key q → w.get? key = some c → Keeps reading q c) ∧
      (∀ members key q c, w = .object members → p.Entry key q → (key, c) ∈ members →
        Keeps reading q c) := by
  rw [keeps_iff]
  constructor
  · intro hall
    exact hall w ((h w).mpr rfl)
  · intro hw u hu
    obtain rfl := (h u).mp hu
    exact hw

/-- A place with one member to look at and no rule of its own keeps the rules if that member does. -/
theorem keeps_iff_of_single {reading : Reading} {p q : Position} {key : String} {w : Json}
    (h : ∀ u, reading p v u ↔ u = w) (hallowed : p.Allows w) (hfield : p.Field key q)
    (honly : ∀ k q', p.Field k q' → k = key ∧ q' = q) (hentry : ∀ k q', ¬ p.Entry k q') :
    Keeps reading p v ↔ ∀ c, w.get? key = some c → Keeps reading q c := by
  rw [keeps_iff_of_reading h]
  constructor
  · intro hall c hc
    exact hall.2.1 key q c hfield hc
  · intro hkey
    refine ⟨hallowed, ?_, ?_⟩
    · intro k q' c hk hc
      obtain ⟨rfl, rfl⟩ := honly k q' hk
      exact hkey c hc
    · intro _ k q' _ _ hk _
      exact absurd hk (hentry k q')

theorem keeps_mediaType : Keeps (asValidated root) .mediaType v ↔
    ∀ c, v.get? "schema" = some c → Keeps (asValidated root) .schema c :=
  keeps_iff_of_single (fun _ => Iff.rfl) trivial Position.Field.schema
    (by rintro _ _ ⟨⟩; exact ⟨rfl, rfl⟩) (by rintro _ _ ⟨⟩)

theorem keeps_content : Keeps (asValidated root) .content v ↔
    ∀ c, v.get? jsonMediaType = some c → Keeps (asValidated root) .mediaType c :=
  keeps_iff_of_single (fun _ => Iff.rfl) trivial Position.Field.mediaType
    (by rintro _ _ ⟨⟩; exact ⟨rfl, rfl⟩) (by rintro _ _ ⟨⟩)

theorem keeps_response : Keeps (asValidated root) .response v ↔
    ∀ c, (dereference root v "").1.get? "content" = some c →
      Keeps (asValidated root) .content c :=
  keeps_iff_of_single (fun _ => Iff.rfl) trivial Position.Field.content
    (by rintro _ _ ⟨⟩; exact ⟨rfl, rfl⟩) (by rintro _ _ ⟨⟩)

theorem keeps_document : Keeps (asValidated root) .document v ↔
    ∀ c, v.get? "paths" = some c → Keeps (asValidated root) .paths c :=
  keeps_iff_of_single (fun _ => Iff.rfl) trivial Position.Field.paths
    (by rintro _ _ ⟨⟩; exact ⟨rfl, rfl⟩) (by rintro _ _ ⟨⟩)

theorem keeps_responses : Keeps (asValidated root) .responses v ↔
    Position.responses.Allows v ∧
      ∀ code ∈ successCodes, ∀ c, v.get? code = some c → Keeps (asValidated root) .response c := by
  rw [keeps_iff_of_reading fun _ => Iff.rfl]
  constructor
  · intro h
    exact ⟨h.1, fun code hcode c hc => h.2.1 _ _ c (Position.Field.response hcode) hc⟩
  · rintro ⟨hallowed, h⟩
    refine ⟨hallowed, ?_, ?_⟩
    · rintro _ _ c hfield hc
      cases hfield with
      | response hcode => exact h _ hcode c hc
    · rintro _ _ _ _ _ ⟨⟩

theorem keeps_tags : Keeps (asValidated root) .tags v ↔ Position.tags.Allows v := by
  rw [keeps_iff_of_reading fun _ => Iff.rfl]
  constructor
  · exact fun h => h.1
  · intro h
    refine ⟨h, ?_, ?_⟩
    · rintro _ _ _ ⟨⟩
    · rintro _ _ _ _ _ ⟨⟩

theorem keeps_operation {method : Method} : Keeps (asValidated root) (.operation method) v ↔
    (Position.operation method).Allows v ∧
      (∀ c, v.get? "tags" = some c → Keeps (asValidated root) .tags c) ∧
      (∀ c, v.get? "responses" = some c → Keeps (asValidated root) .responses c) := by
  rw [keeps_iff_of_reading fun _ => Iff.rfl]
  constructor
  · intro h
    exact ⟨h.1, fun c hc => h.2.1 _ _ c (Position.Field.tags method) hc,
      fun c hc => h.2.1 _ _ c (Position.Field.responses method) hc⟩
  · rintro ⟨hallowed, htags, hresponses⟩
    refine ⟨hallowed, ?_, ?_⟩
    · rintro _ _ c (_ | _) hc
      · exact htags c hc
      · exact hresponses c hc
    · rintro _ _ _ _ _ ⟨⟩

theorem keeps_pathItem {path : String} : Keeps (asValidated root) (.pathItem path) v ↔
    (Position.pathItem path).Allows v ∧
      ∀ method c, v.get? method.key = some c → Keeps (asValidated root) (.operation method) c := by
  rw [keeps_iff_of_reading fun _ => Iff.rfl]
  constructor
  · intro h
    exact ⟨h.1, fun method c hc => h.2.1 _ _ c (Position.Field.operation path method) hc⟩
  · rintro ⟨hallowed, h⟩
    refine ⟨hallowed, ?_, ?_⟩
    · rintro _ _ c hfield hc
      cases hfield with
      | operation _ method => exact h method c hc
    · rintro _ _ _ _ _ ⟨⟩

theorem keeps_paths : Keeps (asValidated root) .paths v ↔
    ∀ members, v = .object members → ∀ m ∈ members,
      Keeps (asValidated root) (.pathItem m.1) m.2 := by
  rw [keeps_iff_of_reading fun _ => Iff.rfl]
  constructor
  · intro h members hv m hm
    exact h.2.2 members _ _ _ hv (Position.Entry.path m.1) hm
  · intro h
    refine ⟨trivial, ?_, ?_⟩
    · rintro _ _ _ ⟨⟩
    · rintro members _ _ c hv ⟨path⟩ hc
      exact h members hv _ hc

end Places

section Violations

variable {root : Json}

theorem dereference_fst (root v : Json) (place : Pointer) :
    (dereference root v place).1 = (dereference root v "").1 := by
  unfold dereference
  split
  · rfl
  · split <;> rfl

theorem all_dereference_subset {v : Json} (h : all v ⊆ all root) (place : Pointer) :
    all (dereference root v place).1 ⊆ all root := by
  unfold dereference
  split
  · exact h
  · split
    · rename_i htarget
      exact Reference.all_subset_of_target? htarget
    · exact h

theorem all_subset_of_getPath? {v w : Json} {keys : List String} (h : getPath? v keys = some w) :
    all w ⊆ all v := by
  induction keys generalizing v with
  | nil =>
      obtain rfl := Option.some.inj h
      exact List.Subset.refl _
  | cons key rest ih =>
      obtain ⟨u, hu, hw⟩ := Option.bind_eq_some_iff.mp h
      exact List.Subset.trans (ih hw) (all_subset_of_get? hu)

/-- A response keeps the rules if its schema does. -/
theorem keeps_response_iff {response : Json} : Keeps (asValidated root) .response response ↔
    ∀ schema, getPath? (dereference root response "").1 ["content", jsonMediaType, "schema"] =
      some schema → Keeps (asValidated root) .schema schema := by
  simp only [keeps_response, keeps_content, keeps_mediaType]
  constructor
  · intro h schema hschema
    obtain ⟨content, hcontent, hrest⟩ := Option.bind_eq_some_iff.mp hschema
    obtain ⟨media, hmedia, hrest⟩ := Option.bind_eq_some_iff.mp hrest
    obtain ⟨last, hlast, hrest⟩ := Option.bind_eq_some_iff.mp hrest
    obtain rfl := Option.some.inj hrest
    exact h content hcontent media hmedia last hlast
  · intro h content hcontent media hmedia schema hschema
    refine h schema ?_
    simp [getPath?, hcontent, hmedia, hschema]

theorem responseViolations_eq_nil_iff {responses : Json} (h : all responses ⊆ all root)
    (place : Pointer) (code : String) :
    responseViolations root responses place code = [] ↔
      ∀ c, responses.get? code = some c → Keeps (asValidated root) .response c := by
  unfold responseViolations
  cases hcode : responses.get? code with
  | none => simp
  | some response =>
      have hresponse := List.Subset.trans (all_subset_of_get? hcode) h
      have hnode := all_dereference_subset hresponse (Pointer.push place code)
      simp only [Option.some.injEq, forall_eq', keeps_response_iff,
        ← dereference_fst root response (Pointer.push place code)]
      cases hschema : getPath? (dereference root response (Pointer.push place code)).1
          ["content", jsonMediaType, "schema"] with
      | none => simp
      | some schema =>
          simp only [Option.some.injEq, forall_eq']
          exact schemaViolations_eq_nil_iff
            (List.Subset.trans (all_subset_of_getPath? hschema) hnode) _

theorem tagViolations_eq_nil_iff (method : Method) {operation : Json} (place : Pointer) :
    tagViolations method operation place = [] ↔
      ∀ c, operation.get? "tags" = some c → Keeps (asValidated root) .tags c := by
  simp only [keeps_tags, Position.Allows, tagViolations]
  cases htags : operation.get? "tags" with
  | none => simp
  | some tags => cases tags <;> simp [Json.items?]

theorem successViolations_eq_nil_iff {method : Method} {responses : Json} {place : Pointer} :
    successViolations method responses place = [] ↔ Position.responses.Allows responses := by
  simp only [successViolations, Position.Allows, successCodes]
  cases h200 : (responses.get? "200").isSome <;> cases h201 : (responses.get? "201").isSome <;>
    simp [List.filter, h200, h201]

theorem bodyViolations_eq_nil_iff {method : Method} {operation : Json} {place : Pointer} :
    bodyViolations method operation place = [] ↔
      (Position.operation method).Allows operation := by
  simp only [bodyViolations, Position.Allows]
  cases method.needsBody <;> cases operation.get? "requestBody" <;> simp

theorem parameterViolations_eq_nil_iff {path : String} (item : Json) {place : Pointer} :
    parameterViolations path place = [] ↔ (Position.pathItem path).Allows item := by
  simp [parameterViolations, Position.Allows]

/-- An operation has no violations exactly if it keeps the rules. -/
theorem operationViolations_eq_nil_iff {method : Method} {operation : Json}
    (h : all operation ⊆ all root) (place : Pointer) :
    operationViolations root method operation place = [] ↔
      Keeps (asValidated root) (.operation method) operation := by
  simp only [operationViolations, List.append_eq_nil_iff, List.flatMap_eq_nil_iff,
    keeps_operation, ← tagViolations_eq_nil_iff method place,
    bodyViolations_eq_nil_iff, successViolations_eq_nil_iff]
  cases hresponses : operation.get? "responses" with
  | none =>
      have hnull (code : String) : responseViolations root .null
          (Pointer.push place "responses") code = [] := rfl
      simp [hnull, Position.Allows, Json.get?, Json.members?]
      tauto
  | some responses =>
      have hall := List.Subset.trans (all_subset_of_get? hresponses) h
      simp only [Option.getD_some, Option.some.injEq, forall_eq', keeps_responses,
        responseViolations_eq_nil_iff hall]
      tauto

/-- A path has no violations exactly if it keeps the rules. -/
theorem pathViolations_eq_nil_iff {path : String} {item : Json} (h : all item ⊆ all root) :
    pathViolations root path item = [] ↔ Keeps (asValidated root) (.pathItem path) item := by
  simp only [pathViolations, List.append_eq_nil_iff, List.flatMap_eq_nil_iff, keeps_pathItem,
    parameterViolations_eq_nil_iff item]
  apply and_congr_right
  intro _
  apply forall_congr'
  intro method
  have hmem : method ∈ Method.all := by cases method <;> decide
  cases hoperation : item.get? method.key with
  | none => simp
  | some operation =>
      simp only [hmem, true_imp_iff, Option.some.injEq, forall_eq']
      exact operationViolations_eq_nil_iff
        (List.Subset.trans (all_subset_of_get? hoperation) h) _

/-- A document has no violations exactly if it keeps the rules as the validator reads it. -/
theorem violations_eq_nil_iff_conforms (root : Json) :
    violations root = [] ↔ Conforms (asValidated root) root := by
  rw [Conforms, keeps_document, violations, List.flatMap_eq_nil_iff, paths]
  cases hpaths : root.get? "paths" with
  | none => simp
  | some members =>
      simp only [Option.some.injEq, forall_eq', keeps_paths, Option.bind_some]
      cases members with
      | object members =>
          simp only [Json.members?, Option.getD_some, Json.object.injEq, forall_eq']
          refine forall₂_congr fun m hm => pathViolations_eq_nil_iff ?_
          refine List.Subset.trans (fun s hs => ?_) (all_subset_of_get? hpaths)
          exact Reference.mem_all_object.mpr (Or.inr ⟨m, hm, hs⟩)
      | _ => simp [Json.members?]

end Violations

end ApiScreens.Subset
