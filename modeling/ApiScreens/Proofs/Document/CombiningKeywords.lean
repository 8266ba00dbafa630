import ApiScreens.Proofs.Document.Validation

/-!
# Combining keywords are reported where they stand

Of all violations only those of schemas are about combining keywords, and the schemas looked at are
those of success responses. What is reported for one of them is each combining keyword of a schema
that it leads to, at the pointer of that schema, however the schemas refer to each other.
-/

namespace ApiScreens.Subset

open Json (Pointer isLocalReference)
open Reference (all)
open Relation (ReflTransGen)

section Kinds

variable {root operation responses : Json} {method : Method} {place : Pointer} {d : Diagnostic}

theorem mem_tagViolations (h : d ∈ tagViolations method operation place) :
    ∃ tags, operation.get? "tags" = some (.array tags) ∧
      d = (Violation.tags method tags.length).diagnostic (Pointer.push place "tags") := by
  unfold tagViolations at h
  cases hfound : operation.get? "tags" with
  | none =>
      rw [hfound] at h
      contradiction
  | some found =>
      rw [hfound] at h
      cases found with
      | array tags =>
          simp only [Option.bind_some, Json.items?] at h
          split at h
          · exact ⟨tags, rfl, List.mem_singleton.mp h⟩
          · contradiction
      | _ => contradiction

theorem mem_successViolations (h : d ∈ successViolations method responses place) :
    ∃ codes, d = (Violation.successResponses method codes).diagnostic place := by
  simp only [successViolations] at h
  split at h
  · exact ⟨_, List.mem_singleton.mp h⟩
  · contradiction

theorem mem_bodyViolations (h : d ∈ bodyViolations method operation place) :
    d = (Violation.missingBody method).diagnostic place := by
  unfold bodyViolations at h
  split at h
  · exact List.mem_singleton.mp h
  · contradiction

theorem mem_parameterViolations {path : String} (h : d ∈ parameterViolations path place) :
    ∃ count, d = (Violation.pathParameters path count).diagnostic place := by
  simp only [parameterViolations] at h
  split at h
  · exact ⟨_, List.mem_singleton.mp h⟩
  · contradiction

theorem mem_responseViolations_iff {code : String} :
    d ∈ responseViolations root responses place code ↔ ∃ response,
      responses.get? code = some response ∧ ∃ schema,
        getPath? (dereference root response (Pointer.push place code)).1
          ["content", jsonMediaType, "schema"] = some schema ∧
        d ∈ schemaViolations root (Pointer.pushAll
          (dereference root response (Pointer.push place code)).2
          ["content", jsonMediaType, "schema"]) schema := by
  unfold responseViolations
  cases responses.get? code with
  | none => simp
  | some response =>
      simp only [Option.some.injEq, exists_eq_left']
      cases getPath? (dereference root response (Pointer.push place code)).1
          ["content", jsonMediaType, "schema"] <;> simp

end Kinds

section SuccessSchemas

variable {root : Json}

/-- A schema that the response of an operation with a success code has for its body, and the pointer
at which it stands. -/
inductive SuccessSchema (root : Json) : Pointer → Json → Prop
  | schema {path code : String} {method : Method} {item operation responses response v : Json}
      {place : Pointer} (listed : (path, item) ∈ paths root)
      (declared : item.get? method.key = some operation)
      (answered : operation.get? "responses" = some responses) (success : code ∈ successCodes)
      (found : responses.get? code = some response)
      (here : place = Pointer.ofTokens ["paths", path, method.key, "responses", code])
      (body : getPath? (dereference root response place).1 ["content", jsonMediaType, "schema"] =
        some v) :
      SuccessSchema root
        (Pointer.pushAll (dereference root response place).2 ["content", jsonMediaType, "schema"]) v

theorem push_response (path code : String) (method : Method) :
    Pointer.push (Pointer.push (Pointer.ofTokens ["paths", path, method.key]) "responses") code =
      Pointer.ofTokens ["paths", path, method.key, "responses", code] := rfl

theorem all_subset_of_mem_paths {m : String × Json} (h : m ∈ paths root) : all m.2 ⊆ all root := by
  unfold paths at h
  cases hpaths : root.get? "paths" with
  | none =>
      rw [hpaths] at h
      contradiction
  | some v =>
      rw [hpaths] at h
      cases v with
      | object members =>
          intro r hr
          exact all_subset_of_get? hpaths (Reference.mem_all_object.mpr (Or.inr ⟨m, h, hr⟩))
      | _ => contradiction

theorem SuccessSchema.all_subset {place : Pointer} {v : Json} (h : SuccessSchema root place v) :
    all v ⊆ all root := by
  obtain ⟨hlisted, hdeclared, hanswered, _, hfound, _, hbody⟩ := h
  have hitem := all_subset_of_mem_paths hlisted
  have hoperation := List.Subset.trans (all_subset_of_get? hdeclared) hitem
  have hresponses := List.Subset.trans (all_subset_of_get? hanswered) hoperation
  have hresponse := List.Subset.trans (all_subset_of_get? hfound) hresponses
  exact List.Subset.trans (all_subset_of_getPath? hbody) (all_dereference_subset hresponse _)

variable {d : Diagnostic}

theorem mem_operationViolations_iff {method : Method} {operation : Json} {place : Pointer}
    (hcode : d.code = .unsupportedSchemaKeyword) :
    d ∈ operationViolations root method operation place ↔ ∃ responses,
      operation.get? "responses" = some responses ∧ ∃ code ∈ successCodes,
        d ∈ responseViolations root responses (Pointer.push place "responses") code := by
  have htags : d ∉ tagViolations method operation place := by
    intro h
    obtain ⟨_, _, rfl⟩ := mem_tagViolations h
    contradiction
  have hsuccess (responses : Json) (place : Pointer) :
      d ∉ successViolations method responses place := by
    intro h
    obtain ⟨_, rfl⟩ := mem_successViolations h
    contradiction
  have hbody : d ∉ bodyViolations method operation place := by
    intro h
    obtain rfl := mem_bodyViolations h
    contradiction
  simp only [operationViolations, List.mem_append, htags, hsuccess, hbody, false_or,
    List.mem_flatMap]
  cases operation.get? "responses" with
  | none =>
      have hnull (code : String) :
          responseViolations root .null (Pointer.push place "responses") code = [] := rfl
      simp [hnull]
  | some responses => simp

theorem mem_pathViolations_iff {path : String} {item : Json}
    (hcode : d.code = .unsupportedSchemaKeyword) :
    d ∈ pathViolations root path item ↔ ∃ method operation,
      item.get? method.key = some operation ∧ d ∈ operationViolations root method operation
        (Pointer.ofTokens ["paths", path, method.key]) := by
  have hparameters : d ∉ parameterViolations path (Pointer.ofTokens ["paths", path]) := by
    intro h
    obtain ⟨_, rfl⟩ := mem_parameterViolations h
    contradiction
  simp only [pathViolations, List.mem_append, hparameters, false_or, List.mem_flatMap]
  apply exists_congr
  intro method
  have hmem : method ∈ Method.all := by cases method <;> decide
  simp only [hmem, true_and]
  cases item.get? method.key with
  | none => simp
  | some operation =>
      simp only [Option.some.injEq, exists_eq_left']
      rfl

/-- The violations that are about combining keywords are those of the schemas of success
responses. -/
theorem mem_violations_iff (hcode : d.code = .unsupportedSchemaKeyword) :
    d ∈ violations root ↔
      ∃ place v, SuccessSchema root place v ∧ d ∈ schemaViolations root place v := by
  simp only [violations, List.mem_flatMap, mem_pathViolations_iff hcode,
    mem_operationViolations_iff hcode, mem_responseViolations_iff, push_response]
  constructor
  · rintro ⟨⟨path, item⟩, hlisted, method, operation, hdeclared, responses, hanswered, code,
      hsuccess, response, hfound, v, hbody, hd⟩
    exact ⟨_, v, SuccessSchema.schema hlisted hdeclared hanswered hsuccess hfound rfl hbody, hd⟩
  · rintro ⟨_, v, hschema, hd⟩
    cases hschema with
    | schema hlisted hdeclared hanswered hsuccess hfound hhere hbody =>
        subst hhere
        exact ⟨_, hlisted, _, _, hdeclared, _, hanswered, _, hsuccess, _, hfound, v, hbody, hd⟩

end SuccessSchemas

/-- What validation reports about combining keywords comes from the schemas of success responses.
The scan of such a schema ends within its bound, and the pointers that it reports are those of the
combining keywords of all schemas, references apart, that the schema leads to. -/
theorem combining_keywords_reported (root : Json) :
    (∀ d : Diagnostic, d.code = .unsupportedSchemaKeyword →
      (d ∈ violations root ↔
        ∃ place v, SuccessSchema root place v ∧ d ∈ schemaViolations root place v)) ∧
    ∀ place v, SuccessSchema root place v →
      (∀ n, scanAt root ((all root).length + n) place v ⟨[], []⟩ =
        scanAt root (all root).length place v ⟨[], []⟩) ∧
      ∀ pointer, (∃ d ∈ schemaViolations root place v,
          d.code = .unsupportedSchemaKeyword ∧ d.pointer = some pointer) ↔
        ∃ place' v' k, ReflTransGen (Leads root) (place, v) (place', v') ∧ v'.reference? = none ∧
          k ∈ compositionKeywords ∧ (v'.get? k).isSome = true ∧
          pointer = Pointer.push place' k := by
  refine ⟨fun d hcode => mem_violations_iff hcode, ?_⟩
  intro place v hschema
  have hall := hschema.all_subset
  constructor
  · intro n
    exact scanAt_eq_of_le hall (Nat.le_add_right _ n) place (Reference.bounded_start root)
  · intro pointer
    constructor
    · rintro ⟨d, hd, _, hpointer⟩
      obtain ⟨⟨place', v'⟩, hleads, hplain, k, hk, hsome, rfl⟩ :=
        (mem_schemaViolations_iff hall).mp hd
      exact ⟨place', v', k, hleads, hplain, hk, hsome, (Option.some.inj hpointer).symm⟩
    · rintro ⟨place', v', k, hleads, hplain, hk, hsome, rfl⟩
      refine ⟨(Violation.composition k).diagnostic (Pointer.push place' k), ?_, rfl, rfl⟩
      exact (mem_schemaViolations_iff hall).mpr ⟨(place', v'), hleads, hplain, k, hk, hsome, rfl⟩

section Circle

/-- An owner, whose kind is combined from others. -/
def ownerSchema : Json :=
  .object [("properties", .object [("kind", .object [("oneOf", .array [])]),
    ("pet", .object [("$ref", .string "#/components/schemas/Pet")])])]

/-- A pet, which leads to its owner. -/
def petSchema : Json :=
  .object [("properties", .object
    [("owner", .object [("$ref", .string "#/components/schemas/Owner")])])]

/-- A list of pets. -/
def petsSchema : Json :=
  .object [("items", .object [("$ref", .string "#/components/schemas/Pet")])]

/-- A document in which pets and owners refer to each other. -/
def petsDocument : Json :=
  .object [("components", .object [("schemas", .object
      [("Owner", ownerSchema), ("Pet", petSchema)])]),
    ("paths", .object [("/pets", .object [("get", .object [("responses", .object [("200",
      .object [("content", .object [("application/json", .object
        [("schema", petsSchema)])])])])])])])]

/-- The pointer of the schema of the response. -/
def petsPlace : Pointer := "/paths/~1pets/get/responses/200/content/application~1json/schema"

theorem combining_keywords_reported_circle :
    SuccessSchema petsDocument petsPlace petsSchema ∧
      (∀ n, scanAt petsDocument (3 + n) petsPlace petsSchema ⟨[], []⟩ =
        scanAt petsDocument 3 petsPlace petsSchema ⟨[], []⟩) ∧
      ∃ d ∈ schemaViolations petsDocument petsPlace petsSchema,
        d.code = .unsupportedSchemaKeyword ∧
          d.pointer = some "/components/schemas/Owner/properties/kind/oneOf" := by
  have hschema : SuccessSchema petsDocument petsPlace petsSchema :=
    @SuccessSchema.schema petsDocument "/pets" "200" .get _ _ _ _ _ _ List.mem_cons_self rfl rfl
      List.mem_cons_self rfl rfl rfl
  have hleads : ReflTransGen (Leads petsDocument) (petsPlace, petsSchema)
      ("/components/schemas/Owner/properties/kind", .object [("oneOf", .array [])]) :=
    calc ReflTransGen (Leads petsDocument) (petsPlace, petsSchema) (_, _) :=
          ReflTransGen.single (Leads.items rfl rfl)
      ReflTransGen (Leads petsDocument) _ ("/components/schemas/Pet", petSchema) :=
          ReflTransGen.single (Leads.reference rfl rfl rfl rfl)
      ReflTransGen (Leads petsDocument) _ (_, _) :=
          ReflTransGen.single (Leads.property rfl rfl List.mem_cons_self)
      ReflTransGen (Leads petsDocument) _ ("/components/schemas/Owner", ownerSchema) :=
          ReflTransGen.single (Leads.reference rfl rfl rfl rfl)
      ReflTransGen (Leads petsDocument) _ (_, _) :=
          ReflTransGen.single (Leads.property rfl rfl List.mem_cons_self)
  obtain ⟨hends, hreported⟩ := (combining_keywords_reported petsDocument).2 _ _ hschema
  refine ⟨hschema, hends, (hreported _).mpr ⟨_, _, "oneOf", hleads, rfl, ?_, rfl, rfl⟩⟩
  exact List.mem_cons_self

end Circle

end ApiScreens.Subset
