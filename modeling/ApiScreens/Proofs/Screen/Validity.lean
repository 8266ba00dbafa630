import ApiScreens.Proofs.Distinct
import ApiScreens.Proofs.Schema.Choices
import ApiScreens.Screen.Lowering
import Mathlib.Data.List.Nodup

/-!
# Screens made from plans are valid

The fields of screens that are made from a plan have different names, which the schemas of the
resource know; columns, form fields and filters name such fields, each once; and choices have
options. So such screens are valid as soon as they have a field.
-/

namespace ApiScreens

open ScreenSpec

/-- What the screens of a resource are like. -/
structure ScreenSpec.Sound (r : Resource) (s : ScreenSpec) : Prop where
  entity : s.entity = r.name
  fields_ne_nil : s.fields ≠ []
  names_nodup : (s.fields.map (·.name)).Nodup
  known : ∀ f ∈ s.fields, r.schemaFields.has f.name = true
  columns_ne_nil : s.columns ≠ []
  columns_nodup : s.columns.Nodup
  columns_subset : s.columns ⊆ s.fields.map (·.name)
  formFields_ne_nil : s.formFields ≠ []
  formFields_nodup : s.formFields.Nodup
  formFields_subset : s.formFields ⊆ s.fields.map (·.name)
  filters_nodup : s.filters.Nodup
  filters_subset : s.filters ⊆ s.fields.map (·.name)
  filterable : ∀ f ∈ s.fields, f.name ∈ s.filters →
    f.type = .string ∨ f.type = .number ∨ f.type = .choice
  options : ∀ f ∈ s.fields, f.type = .choice → ∃ options, f.options = some options ∧ options ≠ []

section Fields

variable {known : FieldMap} {views : Views}

theorem FieldPlan.sort_perm (fields : List FieldPlan) : (FieldPlan.sort fields).Perm fields :=
  List.mergeSort_perm _ _

theorem plannedFields_perm (known : FieldMap) (views : Views) :
    (plannedFields known views).Perm (distinctBy (·.path)
      ((views.toList.flatMap fun (_, view) => view.fields).filter fun f => known.has f.path)) :=
  FieldPlan.sort_perm _

theorem plannedFields_paths_nodup (known : FieldMap) (views : Views) :
    ((plannedFields known views).map (·.path)).Nodup :=
  ((plannedFields_perm known views).map _).nodup_iff.mpr (distinctBy_keys_nodup _)

theorem known_of_mem_plannedFields {f : FieldPlan} (h : f ∈ plannedFields known views) :
    known.has f.path = true := by
  have hdistinct := (plannedFields_perm known views).mem_iff.mp h
  exact (List.mem_filter.mp (distinctBy_subset _ hdistinct)).2

theorem fieldFor?_eq_some {f : FieldPlan} {g : ScreenField} (h : fieldFor? known f = some g) :
    g.name = f.path ∧ ∃ info ∈ known, g.type = info.type ∧ g.options = info.options := by
  obtain ⟨info, hinfo, rfl⟩ := Option.map_eq_some_iff.mp h
  exact ⟨rfl, ⟨info, f.path⟩, FieldMap.mem_of_get? hinfo, rfl, rfl⟩

/-- The fields that a plan makes of what the schemas know. -/
def builtFields (known : FieldMap) (views : Views) : List ScreenField :=
  (plannedFields known views).filterMap (fieldFor? known)

theorem builtFields_names_nodup (known : FieldMap) (views : Views) :
    ((builtFields known views).map (·.name)).Nodup := by
  have hpaths := List.pairwise_map.mp (plannedFields_paths_nodup known views)
  apply List.pairwise_map.mpr
  apply List.pairwise_filterMap.mpr
  apply hpaths.imp
  intro f f' hne g hg g' hg'
  rw [(fieldFor?_eq_some hg).1, (fieldFor?_eq_some hg').1]
  exact hne

theorem known_of_mem_builtFields {g : ScreenField} (h : g ∈ builtFields known views) :
    known.has g.name = true := by
  obtain ⟨f, hf, hg⟩ := List.mem_filterMap.mp h
  rw [(fieldFor?_eq_some hg).1]
  exact known_of_mem_plannedFields hf

theorem options_of_mem_builtFields (hknown : ∀ info ∈ known, info.HasOptions) {g : ScreenField}
    (h : g ∈ builtFields known views) (hchoice : g.type = .choice) :
    ∃ options, g.options = some options ∧ options ≠ [] := by
  obtain ⟨f, _, hg⟩ := List.mem_filterMap.mp h
  obtain ⟨_, info, hinfo, htype, hoptions⟩ := fieldFor?_eq_some hg
  rw [hoptions]
  exact (hknown info hinfo).mp (htype ▸ hchoice)

end Fields

section Names

variable {fields : List ScreenField}

theorem viewPaths_nodup (fields : List ScreenField) (views : Views) (kinds : List ViewKind) :
    (viewPaths fields views kinds).Nodup :=
  distinct_nodup _

theorem viewPaths_subset (fields : List ScreenField) (views : Views) (kinds : List ViewKind) :
    viewPaths fields views kinds ⊆ fields.map (·.name) := by
  intro p hp
  obtain ⟨f, hf, hname⟩ := List.any_eq_true.mp (List.mem_filter.mp (distinct_subset _ hp)).2
  exact List.mem_map.mpr ⟨f, hf, beq_iff_eq.mp hname⟩

/-- Paths of fields, or the first field, are names of fields, each once and one at least. -/
theorem orFirst_names {paths : List String} (hfields : fields ≠ []) (hnodup : paths.Nodup)
    (hsubset : paths ⊆ fields.map (·.name)) :
    orFirst paths fields ≠ [] ∧ (orFirst paths fields).Nodup ∧
      orFirst paths fields ⊆ fields.map (·.name) := by
  obtain ⟨f, rest, rfl⟩ := List.exists_cons_of_ne_nil hfields
  unfold orFirst
  split
  · refine ⟨List.cons_ne_nil _ _, List.nodup_singleton _, ?_⟩
    intro name hname
    rw [List.mem_singleton.mp hname]
    exact List.mem_cons_self
  · rename_i hne
    exact ⟨fun h => hne (List.isEmpty_iff.mpr h), hnodup, hsubset⟩

end Names

/-- The choices that the schemas of a resource know are those that have options. -/
theorem Resource.hasOptions_schemaFields (r : Resource) :
    ∀ info ∈ r.schemaFields, info.HasOptions :=
  Schema.hasOptions_foldl_addTo (List.forall_mem_nil _) r.schemas

/-- Screens that are made from a plan are sound if they have a field. -/
theorem sound_ofPlan {r : Resource} {views : Views} (h : (ofPlan r views).fields ≠ []) :
    (ofPlan r views).Sound r := by
  have hcolumns := orFirst_names h (viewPaths_nodup _ views [.list]) (viewPaths_subset _ _ _)
  have hform := orFirst_names h (viewPaths_nodup _ views [.create, .edit])
    (viewPaths_subset _ _ _)
  have hnames := builtFields_names_nodup r.schemaFields views
  constructor
  case entity => rfl
  case fields_ne_nil => exact h
  case names_nodup => exact hnames
  case known => exact fun f hf => known_of_mem_builtFields hf
  case columns_ne_nil => exact hcolumns.1
  case columns_nodup => exact hcolumns.2.1
  case columns_subset => exact hcolumns.2.2
  case formFields_ne_nil => exact hform.1
  case formFields_nodup => exact hform.2.1
  case formFields_subset => exact hform.2.2
  case filters_nodup => exact (viewPaths_nodup _ _ _).filter _
  case filters_subset =>
    intro name hname
    exact viewPaths_subset _ _ _ (List.mem_filter.mp hname).1
  case filterable =>
    intro f hf hfilter
    obtain ⟨g, hg, hgood⟩ := List.any_eq_true.mp (List.mem_filter.mp hfilter).2
    obtain ⟨hname, htype⟩ := Bool.and_eq_true_iff.mp hgood
    -- Names are different, so the field that is filterable is the one that is named.
    obtain rfl : g = f := List.inj_on_of_nodup_map hnames hg hf (beq_iff_eq.mp hname)
    cases hcase : g.type with
    | string => exact Or.inl rfl
    | number => exact Or.inr (Or.inl rfl)
    | boolean =>
        rw [hcase] at htype
        contradiction
    | choice => exact Or.inr (Or.inr rfl)
  case options =>
    exact fun f hf => options_of_mem_builtFields r.hasOptions_schemaFields hf

end ApiScreens
