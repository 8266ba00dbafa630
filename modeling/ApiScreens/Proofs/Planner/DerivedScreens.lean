import ApiScreens.Proofs.Plan.NormalForm
import ApiScreens.Proofs.Planner.DerivedPlan
import ApiScreens.Proofs.Schema.Agreement
import ApiScreens.Proofs.Screen.Lowering

/-!
# The derived plan becomes screens

A plan lists raw names of properties, while lowering knows the paths of single values. The two meet
in the properties that are single values themselves: one of them in one view is enough for a
resource to have screens. So the derived plan in normal form becomes screens for every resource, if
the names of resources lead back to their keys.
-/

namespace ApiScreens

open ScreenSpec

section Known

namespace FieldMap

variable {fields : FieldMap} {path : String}

theorem has_add (fields : FieldMap) (info : FieldInfo) (path : String) :
    (fields.add info).has path = (fields.has path || info.path == path) := by
  induction fields with
  | nil => simp [add, has]
  | cons known rest ih =>
      unfold add
      split
      · rename_i hsame
        simp [has, hsame, Bool.or_comm]
      · simp only [has, List.any_cons] at ih ⊢
        rw [ih, Bool.or_assoc]

theorem has_foldl_add (fields : FieldMap) (infos : List FieldInfo) (path : String) :
    FieldMap.has (infos.foldl add fields) path = (fields.has path || infos.any (·.path == path)) := by
  induction infos generalizing fields with
  | nil => simp
  | cons info rest ih => rw [List.foldl_cons, ih, has_add, List.any_cons, Bool.or_assoc]

end FieldMap

namespace Schema

/-- What is known after adding schemas is what was known or has an occurrence in one of them. -/
theorem has_foldl_addTo (schemas : List Json) (fields : FieldMap) (path : String) :
    FieldMap.has (schemas.foldl addTo fields) path =
      (fields.has path || schemas.any fun s => (occurrences s).any (·.path == path)) := by
  induction schemas generalizing fields with
  | nil => simp
  | cons schema rest ih =>
      rw [List.foldl_cons, ih, addTo, FieldMap.has_foldl_add, List.any_cons, Bool.or_assoc]

/-- A property that is a single value occurs at its own name. -/
theorem exists_mem_leavesOfEach {properties : Json.Members} (required : List String)
    {m : String × Json} (hm : m ∈ properties) {type : FieldType} {options : Option (List String)}
    (hleaf : form m.2 = .leaf type options) (path : String) :
    ∃ info ∈ leavesOfEach path required properties, info.path = pathTo path m.1 := by
  induction properties with
  | nil => contradiction
  | cons first rest ih =>
      rw [leavesOfEach]
      rcases List.mem_cons.mp hm with rfl | hm
      · refine ⟨⟨pathTo path m.1, type, required.contains m.1, options⟩, ?_, rfl⟩
        apply List.mem_append_left
        rw [hleaf]
        exact List.mem_singleton_self _
      · obtain ⟨info, hinfo, hpath⟩ := ih hm
        exact ⟨info, List.mem_append_right _ hinfo, hpath⟩

end Schema

/-- The resource shows a property that is a single value in the view. -/
def Resource.ShowsValue (r : Resource) (view : ViewKind) (name : String) : Prop :=
  ∃ s, r.objectShown? view = some s ∧ ∃ schema, (name, schema) ∈ Schema.properties s ∧
    ∃ type options, Schema.form schema = .leaf type options

/-- The schemas of a resource know the single values that it shows. -/
theorem Resource.ShowsValue.known {r : Resource} {view : ViewKind} {name : String}
    (h : r.ShowsValue view name) : r.schemaFields.has name = true := by
  obtain ⟨s, hshown, schema, hmem, type, options, hleaf⟩ := h
  obtain ⟨whole, hwhole, hs⟩ := Option.bind_eq_some_iff.mp hshown
  have hin : whole ∈ r.schemas := List.mem_filterMap.mpr ⟨view, ViewKind.mem_all view, hwhole⟩
  obtain ⟨info, hinfo, hpath⟩ := Schema.exists_mem_leavesOfEach
    (Schema.requiredNames s) hmem hleaf ""
  have hoccurs : info ∈ Schema.occurrences whole := by
    rw [Schema.occurrences, hs, Option.map_some, Option.getD_some, Schema.leaves_eq]
    exact hinfo
  rw [Resource.schemaFields, Schema.has_foldl_addTo, Bool.or_eq_true, List.any_eq_true]
  right
  refine ⟨whole, hin, List.any_eq_true.mpr ⟨info, hoccurs, ?_⟩⟩
  rw [hpath]
  exact beq_self_eq_true name

/-- The derived plan has a field for every single value that the resource shows. -/
theorem Resource.ShowsValue.exists_field {r : Resource} {view : ViewKind} {name : String}
    (h : r.ShowsValue view name) :
    ∃ v, r.derivedPlan.views.get? view = some v ∧ ∃ f ∈ v.fields, f.path = name := by
  obtain ⟨s, hshown, schema, hmem, -⟩ := h
  obtain ⟨whole, hwhole, -⟩ := Option.bind_eq_some_iff.mp hshown
  refine ⟨r.derivedView view, ?_, List.mem_map.mp ?_⟩
  · rw [get?_derivedPlan, derivedView?, if_pos (mem_expectedViews_of_shown? hwhole)]
  · change name ∈ (r.derivedView view).paths
    rw [paths_derivedView, hshown]
    exact List.mem_map.mpr ⟨_, hmem, rfl⟩

end Known

section Fields

/-- Normalizing a view keeps its paths. -/
theorem ViewPlan.exists_field_normalize {view : ViewPlan} {f : FieldPlan} (h : f ∈ view.fields) :
    ∃ g ∈ view.normalize.fields, g.path = f.path := by
  have hsome : (view.fields.find? fun g => g.path == f.path).isSome = true :=
    List.find?_isSome.mpr ⟨f, h, beq_self_eq_true _⟩
  obtain ⟨g, hg⟩ := Option.isSome_iff_exists.mp hsome
  have hfound := List.find?_some hg
  have hpath : g.path = f.path := beq_iff_eq.mp hfound
  refine ⟨g, (normalizeFields_perm view.fields).mem_iff.mpr ?_, hpath⟩
  exact mem_distinctBy_iff.mpr (hpath ▸ hg)

/-- Screens have a field if a view has one whose path the schemas know. -/
theorem fields_ofPlan_ne_nil {r : Resource} {views : Views} {view : ViewKind} {v : ViewPlan}
    (hv : views.get? view = some v) {f : FieldPlan} (hf : f ∈ v.fields)
    (hknown : r.schemaFields.has f.path = true) : (ofPlan r views).fields ≠ [] := by
  have hmem : f ∈ (views.toList.flatMap fun entry => entry.2.fields).filter fun f =>
      r.schemaFields.has f.path := by
    refine List.mem_filter.mpr ⟨List.mem_flatMap.mpr ⟨(view, v), ?_, hf⟩, hknown⟩
    exact Views.mem_toList.mpr hv
  have hplanned : plannedFields r.schemaFields views ≠ [] := by
    intro hnil
    have hperm := plannedFields_perm r.schemaFields views
    rw [hnil] at hperm
    exact distinctBy_ne_nil (List.ne_nil_of_mem hmem) hperm.nil_eq.symm
  obtain ⟨g, hg⟩ := List.exists_mem_of_ne_nil _ hplanned
  have hsome : (r.schemaFields.get? g.path).isSome = true := by
    rw [FieldMap.isSome_get?]
    exact known_of_mem_plannedFields hg
  obtain ⟨info, hinfo⟩ := Option.isSome_iff_exists.mp hsome
  have hfield : fieldFor? r.schemaFields g = some
      ⟨g.path, labelFor g, info.type, info.required, info.options, g.readOnly⟩ := by
    rw [fieldFor?, hinfo, Option.map_some]
  exact List.ne_nil_of_mem (List.mem_filterMap.mpr ⟨g, hg, hfield⟩)

end Fields

namespace Plan

variable {model : ApiModel} {plan : Plan}

/-- A step succeeds for a resource of the model that has a field. -/
theorem exists_lowerResource_eq_ok {p : ResourcePlan} {r : Resource}
    (hr : resourceOf? model p = some r) (hfields : (ofPlan r p.views).fields ≠ [])
    (specs : Keyed ScreenSpec) : ∃ specs', lowerResource model specs p = .ok specs' := by
  cases hstep : lowerResource model specs p with
  | ok specs' => exact ⟨specs', rfl⟩
  | error e =>
      rcases lowerResource_error hstep with ⟨hnone, -⟩ | ⟨r', hr', -, hnil, -⟩
      · rw [hr] at hnone
        contradiction
      · obtain rfl := Option.some.inj (hr.symm.trans hr')
        contradiction

/-- Lowering answers screens for the resources that the plan has, and for no others. -/
theorem mem_keys_of_lower {specs : Keyed ScreenSpec} (h : plan.lower model = .ok specs)
    {key : String} : key ∈ specs.map Prod.fst ↔
      ∃ p ∈ plan.resources, ∃ r, resourceOf? model p = some r ∧ r.key = key := by
  apply foldlM_prefix_invariant
    (P := fun (before : List ResourcePlan) (specs : Keyed ScreenSpec) => key ∈ specs.map Prod.fst ↔
      ∃ p ∈ before, ∃ r, resourceOf? model p = some r ∧ r.key = key) h
  · simp
  · intro before p specs specs' hspecs hstep
    obtain ⟨r, hr, hcase⟩ := lowerResource_ok hstep
    have hbehind : (∃ q ∈ before ++ [p], ∃ r, resourceOf? model q = some r ∧ r.key = key) ↔
        key ∈ specs.map Prod.fst ∨ key = r.key := by
      simp [hspecs, hr, or_and_right, exists_or, eq_comm (a := key)]
    rw [hbehind]
    rcases hcase with ⟨hhas, rfl⟩ | ⟨-, -, rfl⟩
    · have hmem : r.key ∈ specs'.map Prod.fst := by simpa [Keyed.has] using hhas
      exact ⟨Or.inl, fun h => h.elim id fun heq => heq ▸ hmem⟩
    · exact Keyed.mem_keys_insert.trans or_comm

/-- A plan for each resource by its name, with a field that the schemas know, becomes screens for
each resource. -/
theorem exists_lower_eq_ok (hkeys : (model.resources.map (·.key)).Nodup)
    (hplan : ∀ p ∈ plan.resources, ∃ r, resourceOf? model p = some r ∧
      (ofPlan r p.views).fields ≠ [])
    (hall : ∀ r ∈ model.resources, ∃ p ∈ plan.resources, resourceOf? model p = some r) :
    ∃ specs, plan.lower model = .ok specs ∧
      (specs.map Prod.fst).Perm (model.resources.map (·.key)) ∧
      ∀ e ∈ specs, Lowers model plan e.1 e.2 := by
  obtain ⟨specs, hspecs⟩ : ∃ specs, plan.lower model = .ok specs := by
    apply exists_foldlM_eq_ok
    intro p hp specs
    obtain ⟨r, hr, hfields⟩ := hplan p hp
    exact exists_lowerResource_eq_ok hr hfields specs
  obtain ⟨hascending, hlowers⟩ := lowers_of_lower hspecs
  refine ⟨specs, hspecs, ?_, hlowers⟩
  have hnodup : (specs.map Prod.fst).Nodup := by
    apply List.pairwise_map.mpr
    exact hascending.imp fun hlt heq => String.ne_of_lt hlt heq
  rw [List.perm_ext_iff_of_nodup hnodup hkeys]
  intro key
  rw [mem_keys_of_lower hspecs, List.mem_map]
  constructor
  · rintro ⟨p, -, r, hr, rfl⟩
    exact ⟨r, List.mem_of_find?_eq_some hr, rfl⟩
  · rintro ⟨r, hr, rfl⟩
    obtain ⟨p, hp, hfound⟩ := hall r hr
    exact ⟨p, hp, r, hfound, rfl⟩

/-- A name that leads to the key of a resource leads to the resource. -/
theorem resourceOf?_eq_some (hkeys : (model.resources.map (·.key)).Nodup) {r : Resource}
    (hr : r ∈ model.resources) {p : ResourcePlan} (hname : r.key = Text.slug p.name) :
    resourceOf? model p = some r := by
  have hsome : (model.resources.find? (·.key == Text.slug p.name)).isSome = true :=
    List.find?_isSome.mpr ⟨r, hr, beq_iff_eq.mpr hname⟩
  obtain ⟨r', hr'⟩ := Option.isSome_iff_exists.mp hsome
  have hkey : r'.key = r.key := (key_of_resourceOf? hr').trans hname.symm
  rw [resourceOf?, hr', List.inj_on_of_nodup_map hkeys (List.mem_of_find?_eq_some hr') hr hkey]

end Plan

/-- Each resource has a name that leads back to its key, which is its own. -/
structure ApiModel.Addressed (model : ApiModel) : Prop where
  keys : (model.resources.map (·.key)).Nodup
  names : ∀ r ∈ model.resources, r.key = Text.slug r.name

/-- The normal form of the derived plan becomes screens for each resource, if each shows a single
value. -/
theorem Plan.exists_lower_derived {model : ApiModel} (haddressed : model.Addressed)
    (hvalues : ∀ r ∈ model.resources, ∃ view name, r.ShowsValue view name) :
    ∃ specs, (derived model).normalize.lower model = .ok specs ∧
      (specs.map Prod.fst).Perm (model.resources.map (·.key)) ∧
      ∀ e ∈ specs, Lowers model (derived model).normalize e.1 e.2 := by
  have hfound : ∀ r ∈ model.resources, resourceOf? model r.derivedPlan.normalize = some r :=
    fun r hr => resourceOf?_eq_some haddressed.keys hr (haddressed.names r hr)
  have hmem {p : ResourcePlan} : p ∈ (derived model).normalize.resources ↔
      ∃ r ∈ model.resources, r.derivedPlan.normalize = p := by
    simp [mem_normalize_resources, derived]
  apply exists_lower_eq_ok haddressed.keys
  · intro p hp
    obtain ⟨r, hr, rfl⟩ := hmem.mp hp
    refine ⟨r, hfound r hr, ?_⟩
    obtain ⟨view, name, hvalue⟩ := hvalues r hr
    obtain ⟨v, hv, f, hf, rfl⟩ := hvalue.exists_field
    obtain ⟨g, hg, hpath⟩ := ViewPlan.exists_field_normalize hf
    have hview : r.derivedPlan.normalize.views.get? view = some v.normalize := by
      rw [ResourcePlan.normalize, Views.get?_map, hv, Option.map_some]
    exact fields_ofPlan_ne_nil hview hg (hpath ▸ hvalue.known)
  · intro r hr
    exact ⟨_, hmem.mpr ⟨r, hr, rfl⟩, hfound r hr⟩

/-- The planner that lists properties always answers a plan when names are not blank: one for each
resource, in order, each with the expected views, which list the properties that they show. It is
the plan that the payload of the API is read as. Where names lead back to keys and every resource
shows a single value, its normal form becomes screens, one for each resource. -/
theorem Planner.derived_outcome {model : ApiModel} (hnamed : ∀ r ∈ model.resources, r.Named)
    (htrees : ∀ r ∈ model.resources, ∀ view, ∀ s ∈ r.shown? view, s.IsTree) :
    ∃ plan : Plan,
      (∀ (m : Type → Type) [Monad m], (derived : Planner m).plan model = pure (.ok plan)) ∧
      List.Forall₂ Resource.PlannedAs model.resources plan.resources ∧
      ((∀ r ∈ model.resources, r.Countable) → Plan.ofJson (Plan.payload model) = .ok plan) ∧
      (model.Addressed → (∀ r ∈ model.resources, ∃ view name, r.ShowsValue view name) →
        ∃ specs, plan.normalize.lower model = .ok specs ∧
          (specs.map Prod.fst).Perm (model.resources.map (·.key)) ∧
          ∀ e ∈ specs, Plan.Lowers model plan.normalize e.1 e.2) := by
  have hchecked := Plan.checked_derived hnamed
  refine ⟨Plan.derived model, ?answer, ?resources, ?payload, Plan.exists_lower_derived⟩
  case answer =>
    intro m _
    have hplan : (Plan.derived model).checked.mapError PlanIssue.diagnostic =
        .ok (Plan.derived model) := mapError_eq_ok.mpr hchecked
    exact congrArg pure hplan
  case resources =>
    rw [Plan.derived, List.forall₂_map_right_iff, List.forall₂_same]
    exact fun r hr => Resource.plannedAs_derivedPlan (htrees r hr)
  case payload =>
    intro hcountable
    rw [Plan.ofJson_payload hcountable, hchecked]

/-- Pets, which are listed with their name and their owner, an object. -/
def shelterPets : Resource :=
  let pet : Json := .object [("properties", .object [("name", .object []),
    ("owner", .object [("type", .string "object")])])]
  ⟨"Pets", "pets", [⟨"pets", .get, .list, "/pets", none, none,
    .object [("items", pet), ("type", .string "array")]⟩]⟩

/-- Owners, who are created by their age. -/
def shelterOwners : Resource :=
  let owner : Json := .object [("properties", .object [("age", .object [("type",
    .string "integer")])])]
  ⟨"Owners", "owners", [⟨"own", .post, .create, "/owners", none, some owner, .null⟩]⟩

/-- A model whose resources are not in the order of their names. -/
def shelterModel : ApiModel := ⟨⟨"Shelter", "1"⟩, [shelterPets, shelterOwners]⟩

theorem Planner.derived_outcome_shelter :
    (∀ r ∈ shelterModel.resources, r.Named) ∧ shelterModel.Addressed ∧
      ∃ plan specs, (derived : Planner Id).plan shelterModel = .ok plan ∧
        List.Forall₂ Resource.PlannedAs shelterModel.resources plan.resources ∧
        Plan.ofJson (Plan.payload shelterModel) = .ok plan ∧
        plan.normalize.lower shelterModel = .ok specs ∧
        (specs.map Prod.fst).Perm ["pets", "owners"] := by
  have hall {P : Resource → Prop} (hpets : P shelterPets) (howners : P shelterOwners) :
      ∀ r ∈ shelterModel.resources, P r := by
    intro r hr
    simp only [shelterModel, List.mem_cons, List.not_mem_nil, or_false] at hr
    rcases hr with rfl | rfl
    · exact hpets
    · exact howners
  have hnamed : ∀ r ∈ shelterModel.resources, r.Named := by
    apply hall
    · exact ⟨by decide, fun view => by cases view <;> decide⟩
    · exact ⟨by decide, fun view => by cases view <;> decide⟩
  have htrees : ∀ r ∈ shelterModel.resources, ∀ view, ∀ s ∈ r.shown? view, s.IsTree := by
    apply hall
    · intro view
      cases view <;> decide
    · intro view
      cases view <;> decide
  have hcountable : ∀ r ∈ shelterModel.resources, r.Countable := by
    apply hall
    · intro view
      cases view <;> decide
    · intro view
      cases view <;> decide
  have haddressed : shelterModel.Addressed := ⟨by decide, hall (by decide) (by decide)⟩
  have hvalues : ∀ r ∈ shelterModel.resources, ∃ view name, r.ShowsValue view name :=
    hall ⟨.list, "name", _, rfl, _, List.mem_cons_self, _, _, rfl⟩
      ⟨.create, "age", _, rfl, _, List.mem_cons_self, _, _, rfl⟩
  obtain ⟨plan, hanswer, hplanned, hpayload, hlower⟩ := derived_outcome hnamed htrees
  obtain ⟨specs, hspecs, hkeys, -⟩ := hlower haddressed hvalues
  exact ⟨hnamed, haddressed, plan, specs, hanswer Id, hplanned, hpayload hcountable, hspecs, hkeys⟩

end ApiScreens
