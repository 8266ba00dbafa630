import ApiScreens.Planner.Basic
import ApiScreens.Proofs.Api.Correspondence
import ApiScreens.Proofs.Schema.Agreement
import ApiScreens.Proofs.Screen.Lowering

/-!
# Screens of models that match

Models whose resources are the same but for schemas that match at every depth have the same plan,
and lowering a plan gives them the same screens once options are changed by the function by which
the schemas match.
-/

namespace ApiScreens

open Schema (Throughout)

/-- A field of a screen with its options changed. -/
def ScreenField.mapOptions (f : List String → List String) (field : ScreenField) : ScreenField :=
  { field with options := field.options.map f }

/-- The screens of a resource with the options of their fields changed. -/
def ScreenSpec.mapOptions (f : List String → List String) (spec : ScreenSpec) : ScreenSpec :=
  { spec with fields := spec.fields.map (ScreenField.mapOptions f) }

/-- Resources that are the same but for schemas that match at every depth. -/
abbrev Resource.Matches (f : List String → List String) : Resource → Resource → Prop :=
  Resource.Corresponds (Throughout (Schema.Matches f))

variable {f : List String → List String}

section Known

/-- What is known about fields with their options changed. -/
def FieldMap.mapOptions (f : List String → List String) (fields : FieldMap) : FieldMap :=
  fields.map fun e => ⟨e.toFieldInfo.mapOptions f, e.key⟩

theorem FieldMap.map_add (fields : FieldMap) (info : FieldInfo) :
    (fields.add info).mapOptions f = (fields.mapOptions f).add (info.mapOptions f) := by
  induction fields with
  | nil => rfl
  | cons known rest ih =>
      unfold mapOptions at ih ⊢
      rw [List.map_cons, add, add]
      by_cases hpath : known.key = info.path
      · rw [if_pos hpath]
        exact (if_pos hpath).symm
      · rw [if_neg hpath, List.map_cons, ih]
        exact (if_neg hpath).symm

theorem FieldMap.map_foldl_add (fields : FieldMap) (infos : List FieldInfo) :
    FieldMap.mapOptions f (infos.foldl add fields) =
      (infos.map (FieldInfo.mapOptions f)).foldl add (fields.mapOptions f) := by
  induction infos generalizing fields with
  | nil => rfl
  | cons info rest ih =>
      rw [List.foldl_cons, ih, map_add]
      rfl

/-- Schemas that match at every depth say the same about fields. -/
theorem Schema.map_foldl_addTo {schemas schemas' : List Json} {fields fields' : FieldMap}
    (h : List.Forall₂ (Throughout (Schema.Matches f)) schemas schemas')
    (hfields : fields.mapOptions f = fields'.mapOptions f) :
    FieldMap.mapOptions f (schemas.foldl addTo fields) =
      FieldMap.mapOptions f (schemas'.foldl addTo fields') := by
  induction h generalizing fields fields' with
  | nil => exact hfields
  | cons hschema _ ih =>
      apply ih
      rw [addTo, addTo, FieldMap.map_foldl_add, FieldMap.map_foldl_add, hfields,
        occurrences_map_eq hschema]

end Known

namespace Resource

section Matches

variable {r s : Resource}

theorem Matches.rel_operation? (h : r.Matches f s) (kind : OperationKind) :
    Option.Rel (Operation.Corresponds (Throughout (Schema.Matches f))) (r.operation? kind)
      (s.operation? kind) :=
  rel_find? h.operations fun _ _ hop => by rw [hop.kind]

theorem Matches.rel_shown? (h : r.Matches f s) (view : ViewKind) :
    Option.Rel (Throughout (Schema.Matches f)) (r.shown? view) (s.shown? view) := by
  have hoperation := h.rel_operation? view.operation
  unfold shown?
  split
  · exact rel_bind hoperation fun _ _ hop => hop.request
  · unfold response?
    simp only [Option.map_eq_bind]
    exact rel_bind hoperation fun _ _ hop => .some hop.response

theorem Matches.expectedViews_eq (h : r.Matches f s) : r.expectedViews = s.expectedViews := by
  unfold expectedViews
  congr 1
  funext view
  exact isSome_eq_of_rel (h.rel_operation? view.operation)

theorem Matches.derivedView_eq (h : r.Matches f s) (view : ViewKind) :
    r.derivedView view = s.derivedView view := by
  have hobjects := rel_bind (h.rel_shown? view) fun _ _ => Schema.object?_matches
  unfold derivedView
  generalize (r.shown? view).bind Schema.object? = a at hobjects
  generalize (s.shown? view).bind Schema.object? = b at hobjects
  cases hobjects with
  | none => rfl
  | some hobject => simp only [Option.elim_some, hobject.here.names_eq]

/-- Resources that match have the same plan. -/
theorem Matches.derivedPlan_eq (h : r.Matches f s) : r.derivedPlan = s.derivedPlan := by
  have hviews (view : ViewKind) : r.derivedView? view = s.derivedView? view := by
    rw [derivedView?, derivedView?, h.expectedViews_eq, h.derivedView_eq]
  simp only [derivedPlan, h.name, hviews]

theorem Matches.idField?_eq (h : r.Matches f s) : r.idField? = s.idField? := by
  have hlists : (r.response? .list).any (Schema.declares · "id") =
      (s.response? .list).any (Schema.declares · "id") := by
    have hresponses := h.rel_shown? .list
    change Option.Rel _ (r.response? .list) (s.response? .list) at hresponses
    generalize r.response? .list = a at hresponses
    generalize s.response? .list = b at hresponses
    cases hresponses with
    | none => rfl
    | some hresponse => exact Schema.declares_eq hresponse "id"
  have hidentifier (kind : OperationKind) :
      (r.operation? kind).bind (·.identifier) = (s.operation? kind).bind (·.identifier) := by
    have hoperations := h.rel_operation? kind
    generalize r.operation? kind = a at hoperations
    generalize s.operation? kind = b at hoperations
    cases hoperations with
    | none => rfl
    | some hop => exact hop.identifier
  simp only [idField?, hlists, hidentifier]

theorem Matches.map_schemaFields (h : r.Matches f s) :
    r.schemaFields.mapOptions f = s.schemaFields.mapOptions f :=
  Schema.map_foldl_addTo (forall₂_filterMap fun view _ => h.rel_shown? view) rfl

end Matches

end Resource

namespace ScreenSpec

section Options

variable {views : Views} {fields fields' : List ScreenField}

theorem has_map (known : FieldMap) (path : String) :
    (known.mapOptions f).has path = known.has path := by
  simp [FieldMap.has, FieldMap.mapOptions, List.any_map, Function.comp_def]

theorem fieldFor?_map (known : FieldMap) (p : FieldPlan) :
    (fieldFor? known p).map (ScreenField.mapOptions f) =
      fieldFor? (known.mapOptions f) p := by
  simp [fieldFor?, FieldMap.get?, FieldMap.mapOptions, List.find?_map, Function.comp_def,
    FieldInfo.mapOptions, ScreenField.mapOptions]

/-- Changing the options of what is known changes those of the fields that a plan makes of it. -/
theorem map_builtFields (known : FieldMap) (views : Views) :
    (builtFields known views).map (ScreenField.mapOptions f) =
      builtFields (known.mapOptions f) views := by
  have hplanned : plannedFields (known.mapOptions f) views =
      plannedFields known views := by
    simp only [plannedFields, has_map]
  rw [builtFields, builtFields, hplanned, List.map_filterMap]
  simp only [fieldFor?_map]

/-- What areas look at in fields: their names and their types. -/
def faces (fields : List ScreenField) : List (String × FieldType) :=
  fields.map fun g => (g.name, g.type)

theorem faces_map (fields : List ScreenField) :
    faces (fields.map (ScreenField.mapOptions f)) = faces fields := by
  rw [faces, List.map_map]
  rfl

theorem viewPaths_congr (h : faces fields = faces fields') (kinds : List ViewKind) :
    viewPaths fields views kinds = viewPaths fields' views kinds := by
  have hany (fields : List ScreenField) (p : String) :
      fields.any (·.name == p) = (faces fields).any (·.1 == p) := by
    simp [faces, List.any_map, Function.comp_def]
  simp only [viewPaths, hany, h]

theorem orFirst_congr (h : faces fields = faces fields') (paths : List String) :
    orFirst paths fields = orFirst paths fields' := by
  have hfirst (fields : List ScreenField) :
      fields.head?.map (·.name) = (faces fields).head?.map (·.1) := by
    cases fields <;> rfl
  simp only [orFirst, hfirst, h]

theorem filterable_congr (h : faces fields = faces fields') (p : String) :
    (fields.any fun g => g.name == p && g.type.isFilterable) =
      fields'.any fun g => g.name == p && g.type.isFilterable := by
  have hany (fields : List ScreenField) :
      (fields.any fun g => g.name == p && g.type.isFilterable) =
        (faces fields).any fun g => g.1 == p && g.2.isFilterable := by
    simp [faces, List.any_map, Function.comp_def]
  rw [hany, hany, h]

/-- The screens that have some fields, by the views of a plan. -/
def ofFields (entity : String) (idField : Option String) (views : Views)
    (fields : List ScreenField) : ScreenSpec :=
  let listed := viewPaths fields views [.list]
  { entity := entity
    fields := fields
    columns := orFirst listed fields
    formFields := orFirst (viewPaths fields views [.create, .edit]) fields
    filters := listed.filter fun p => fields.any fun g => g.name == p && g.type.isFilterable
    idField := idField }

theorem ofPlan_eq_ofFields (r : Resource) (views : Views) :
    ofPlan r views = ofFields r.name r.idField? views (builtFields r.schemaFields views) :=
  rfl

theorem mapOptions_ofFields (h : fields.map (ScreenField.mapOptions f) =
    fields'.map (ScreenField.mapOptions f)) (entity : String) (idField : Option String)
    (views : Views) :
    (ofFields entity idField views fields).mapOptions f =
      (ofFields entity idField views fields').mapOptions f := by
  have hfaces : faces fields = faces fields' := by
    rw [← @faces_map f, h, faces_map]
  simp only [ofFields, mapOptions, h, viewPaths_congr hfaces, orFirst_congr hfaces,
    filterable_congr hfaces]

/-- Resources that match have the same screens for a plan, but for options. -/
theorem mapOptions_ofPlan {r s : Resource} (h : r.Matches f s) (views : Views) :
    (ofPlan r views).mapOptions f = (ofPlan s views).mapOptions f := by
  rw [ofPlan_eq_ofFields, ofPlan_eq_ofFields, h.name, h.idField?_eq]
  apply mapOptions_ofFields
  rw [map_builtFields, map_builtFields, h.map_schemaFields]

end Options

end ScreenSpec

namespace Plan

variable {model model' : ApiModel}

/-- Models whose resources match have the same plan. -/
theorem derived_eq (h : List.Forall₂ (Resource.Matches f) model.resources model'.resources) :
    derived model = derived model' := by
  rw [derived, derived, mk.injEq, ← List.forall₂_eq_eq_eq, List.forall₂_map_left_iff,
    List.forall₂_map_right_iff]
  exact h.imp fun _ _ => Resource.Matches.derivedPlan_eq

/-- Screens by keys with the options of their fields changed. -/
def mapOptions (f : List String → List String) (specs : Keyed ScreenSpec) : Keyed ScreenSpec :=
  specs.map fun e => (e.1, e.2.mapOptions f)

theorem mapOptions_lowerResource
    (h : List.Forall₂ (Resource.Matches f) model.resources model'.resources)
    {specs specs' out out' : Keyed ScreenSpec} {p : ResourcePlan}
    (hspecs : mapOptions f specs = mapOptions f specs')
    (hout : lowerResource model specs p = .ok out)
    (hout' : lowerResource model' specs' p = .ok out') :
    mapOptions f out = mapOptions f out' := by
  obtain ⟨r, hr, hstep⟩ := lowerResource_ok hout
  obtain ⟨s, hs, hstep'⟩ := lowerResource_ok hout'
  have hrel : Option.Rel (Resource.Matches f) (resourceOf? model p) (resourceOf? model' p) :=
    rel_find? h fun _ _ hresource => by rw [hresource.key]
  rw [hr, hs, Option.rel_some_some] at hrel
  have hhas : specs.has r.key = specs'.has s.key := by
    rw [← Keyed.has_map (ScreenSpec.mapOptions f) specs, ← Keyed.has_map (ScreenSpec.mapOptions f)
      specs', hrel.key]
    exact congrArg (Keyed.has · s.key) hspecs
  rcases hstep with ⟨hthere, rfl⟩ | ⟨hnew, _, rfl⟩ <;>
    rcases hstep' with ⟨hthere', rfl⟩ | ⟨hnew', _, rfl⟩
  · exact hspecs
  · rw [hhas, hnew'] at hthere
    contradiction
  · rw [hhas, hthere'] at hnew
    contradiction
  · unfold mapOptions at hspecs ⊢
    rw [Keyed.map_insert, Keyed.map_insert, hspecs, hrel.key,
      ScreenSpec.mapOptions_ofPlan hrel p.views]

/-- Lowering a plan for models whose resources match makes the same screens, but for options. -/
theorem mapOptions_lower
    (h : List.Forall₂ (Resource.Matches f) model.resources model'.resources) {plan : Plan}
    {specs specs' : Keyed ScreenSpec} (hspecs : plan.lower model = .ok specs)
    (hspecs' : plan.lower model' = .ok specs') : mapOptions f specs = mapOptions f specs' := by
  have hsame : List.Forall₂ Eq plan.resources plan.resources := List.forall₂_refl _
  refine foldlM_related (S := fun specs specs' => mapOptions f specs = mapOptions f specs') hsame
    rfl hspecs hspecs' ?_
  rintro p _ specs specs' out out' rfl hsame hout hout'
  exact mapOptions_lowerResource h hsame hout hout'

end Plan

end ApiScreens
