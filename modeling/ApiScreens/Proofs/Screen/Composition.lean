import ApiScreens.Proofs.Plan.NormalForm
import ApiScreens.Proofs.Screen.Lowering

/-!
# What screens are composed of

The fields of the screens that are made from a plan are the paths of its views that the schemas of
the resource know, each joined from the first entry for its path and from what the schemas say, and
sorted as those entries are. Columns, form fields and filters are paths of some of the views.
-/

namespace ApiScreens

open ScreenSpec

namespace Views

/-- What some views have, one view after the other; a view that is missing has nothing. -/
def gather {α : Type} (views : Views) (get : ViewPlan → List α) (kinds : List ViewKind) : List α :=
  kinds.flatMap fun kind => ((views.get? kind).map get).getD []

/-- The entries of all views, in the order of the views. -/
def entries (views : Views) : List FieldPlan :=
  views.gather (·.fields) [.list, .detail, .create, .edit]

/-- The entry is the first one for its path. -/
def LeadsPath (views : Views) (entry : FieldPlan) : Prop :=
  views.entries.find? (·.path == entry.path) = some entry

end Views

/-- A field joins an entry of a plan and what the schemas know under its path. -/
structure ScreenField.Joins (known : FieldMap) (entry : FieldPlan) (field : ScreenField) :
    Prop where
  name : field.name = entry.path
  label : field.label = labelFor entry
  readOnly : field.readOnly = entry.readOnly
  info : ∃ info, known.get? entry.path = some info ∧ field.type = info.type ∧
    field.required = info.required ∧ field.options = info.options

/-- The different paths that name fields, in the order in which they are first there. -/
def ScreenField.Named (fields : List ScreenField) (paths listed : List String) : Prop :=
  InFirstOrder (paths.filter fun p => p ∈ fields.map (·.name)) listed

/-- The paths themselves or, if there are none, the name of the first field alone. -/
inductive ScreenField.OrFirst : List ScreenField → List String → List String → Prop
  | paths {fields : List ScreenField} {paths : List String} (h : paths ≠ []) :
      OrFirst fields paths paths
  | first (field : ScreenField) (rest : List ScreenField) :
      OrFirst (field :: rest) [] [field.name]

/-- Screens are composed of the fields that the schemas of a resource know among those that a plan
shows, and of lists of these by the views of the plan. -/
structure ScreenSpec.ComposedOf (r : Resource) (views : Views) (s : ScreenSpec) : Prop where
  names_nodup : (s.fields.map (·.name)).Nodup
  mem_names_iff : ∀ name, name ∈ s.fields.map (·.name) ↔
    (∃ kind, ∃ view ∈ views.get? kind, name ∈ view.paths) ∧ r.schemaFields.has name = true
  joined : ∃ entries : List FieldPlan, entries.Pairwise FieldPlan.Precedes ∧
    List.Forall₂ (fun entry field => views.LeadsPath entry ∧ field.Joins r.schemaFields entry)
      entries s.fields
  listed : ∃ listed, ScreenField.Named s.fields (views.gather (·.paths) [.list]) listed ∧
    ScreenField.OrFirst s.fields listed s.columns ∧
    s.filters = listed.filter fun p =>
      ∃ field ∈ s.fields, field.name = p ∧ field.type ∈ [.string, .number, .choice]
  formed : ∃ formed, ScreenField.Named s.fields (views.gather (·.paths) [.create, .edit]) formed ∧
    ScreenField.OrFirst s.fields formed s.formFields

namespace ScreenSpec

variable {known : FieldMap} {views : Views} {fields : List ScreenField}

section Entries

theorem flatMap_filterMap_get? {α : Type} (views : Views) (get : ViewPlan → List α)
    (kinds : List ViewKind) :
    (kinds.filterMap views.get?).flatMap get = views.gather get kinds := by
  unfold Views.gather
  induction kinds with
  | nil => rfl
  | cons kind rest ih =>
      rw [List.filterMap_cons, List.flatMap_cons, ← ih]
      cases views.get? kind <;> rfl

theorem flatMap_toList (views : Views) :
    (views.toList.flatMap fun (_, view) => view.fields) = views.entries := by
  have hviews : views.toList.map Prod.snd = ViewKind.all.filterMap views.get? := by
    simp [Views.toList, List.map_filterMap, Function.comp_def]
  calc
    (views.toList.flatMap fun (_, view) => view.fields) =
        (views.toList.map Prod.snd).flatMap (·.fields) := by
      rw [List.flatMap_map]
    _ = (ViewKind.all.filterMap views.get?).flatMap (·.fields) := by rw [hviews]
    _ = views.entries := flatMap_filterMap_get? ..

theorem plannedFields_eq (known : FieldMap) (views : Views) : plannedFields known views =
    FieldPlan.sort (distinctBy (·.path) (views.entries.filter fun f => known.has f.path)) := by
  rw [plannedFields, flatMap_toList]

theorem mem_entries_iff {f : FieldPlan} :
    f ∈ views.entries ↔ ∃ kind, ∃ view ∈ views.get? kind, f ∈ view.fields := by
  rw [← flatMap_toList, List.mem_flatMap]
  constructor
  · rintro ⟨⟨kind, view⟩, hview, hf⟩
    exact ⟨kind, view, Views.mem_toList.mp hview, hf⟩
  · rintro ⟨kind, view, hview, hf⟩
    exact ⟨(kind, view), Views.mem_toList.mpr hview, hf⟩

/-- The planned fields are the first entries for paths that the schemas know. -/
theorem mem_plannedFields_iff {f : FieldPlan} :
    f ∈ plannedFields known views ↔ known.has f.path = true ∧ views.LeadsPath f := by
  have hsame (hknown : known.has f.path = true) : (views.entries.filter fun g =>
      known.has g.path).find? (·.path == f.path) = views.entries.find? (·.path == f.path) := by
    rw [List.find?_filter]
    congr 1
    funext g
    by_cases hpath : g.path = f.path
    · simp [hpath, hknown]
    · simp [hpath]
  rw [plannedFields_eq, (FieldPlan.sort_perm _).mem_iff, mem_distinctBy_iff]
  constructor
  · intro h
    have hknown := (List.mem_filter.mp (List.mem_of_find?_eq_some h)).2
    exact ⟨hknown, (hsame hknown).symm.trans h⟩
  · rintro ⟨hknown, hleads⟩
    exact (hsame hknown).trans hleads

theorem plannedFields_precedes (known : FieldMap) (views : Views) :
    (plannedFields known views).Pairwise FieldPlan.Precedes :=
  FieldPlan.sort_precedes (distinctBy_keys_nodup _)

theorem mem_paths_plannedFields_iff {path : String} :
    path ∈ (plannedFields known views).map (·.path) ↔
      (∃ kind, ∃ view ∈ views.get? kind, path ∈ view.paths) ∧ known.has path = true := by
  rw [List.mem_map]
  constructor
  · rintro ⟨f, hf, rfl⟩
    obtain ⟨hknown, hleads⟩ := mem_plannedFields_iff.mp hf
    obtain ⟨kind, view, hview, hmem⟩ := mem_entries_iff.mp (List.mem_of_find?_eq_some hleads)
    exact ⟨⟨kind, view, hview, List.mem_map_of_mem hmem⟩, hknown⟩
  · rintro ⟨⟨kind, view, hview, hpath⟩, hknown⟩
    obtain ⟨f, hf, rfl⟩ := List.mem_map.mp hpath
    have hmem : f ∈ views.entries := mem_entries_iff.mpr ⟨kind, view, hview, hf⟩
    have hsome : (views.entries.find? (·.path == f.path)).isSome = true :=
      List.find?_isSome.mpr ⟨f, hmem, beq_self_eq_true f.path⟩
    obtain ⟨g, hg⟩ := Option.isSome_iff_exists.mp hsome
    have hfound := List.find?_some hg
    have hsame : g.path = f.path := beq_iff_eq.mp hfound
    refine ⟨g, mem_plannedFields_iff.mpr ?_, hsame⟩
    unfold Views.LeadsPath
    rw [hsame]
    exact ⟨hknown, hg⟩

/-- Every planned field becomes one that is built. -/
theorem forall₂_builtFields (known : FieldMap) (views : Views) :
    List.Forall₂ (fun entry field => views.LeadsPath entry ∧ field.Joins known entry)
      (plannedFields known views) (builtFields known views) := by
  have hplanned : ∀ entry ∈ plannedFields known views,
      known.has entry.path = true ∧ views.LeadsPath entry := fun _ => mem_plannedFields_iff.mp
  unfold builtFields
  generalize plannedFields known views = planned at hplanned ⊢
  induction planned with
  | nil => exact .nil
  | cons entry rest ih =>
      obtain ⟨⟨hknown, hleads⟩, hrest⟩ := List.forall_mem_cons.mp hplanned
      rw [← FieldMap.isSome_get?] at hknown
      obtain ⟨info, hinfo⟩ := Option.isSome_iff_exists.mp hknown
      rw [List.filterMap_cons_some (by rw [fieldFor?, hinfo]; rfl)]
      refine .cons ⟨hleads, ?_⟩ (ih hrest)
      exact ⟨rfl, rfl, rfl, info, hinfo, rfl, rfl, rfl⟩

end Entries

section Lists

theorem viewPaths_eq (fields : List ScreenField) (views : Views) (kinds : List ViewKind) :
    viewPaths fields views kinds =
      distinct ((views.gather (·.paths) kinds).filter fun p => fields.any (·.name == p)) := by
  rw [viewPaths, flatMap_filterMap_get?]

theorem named_viewPaths (fields : List ScreenField) (views : Views) (kinds : List ViewKind) :
    ScreenField.Named fields (views.gather (·.paths) kinds) (viewPaths fields views kinds) := by
  have hnames (p : String) : fields.any (·.name == p) = decide (p ∈ fields.map (·.name)) := by
    rw [Bool.eq_iff_iff, decide_eq_true_iff]
    simp
  rw [viewPaths_eq]
  simp only [hnames]
  exact inFirstOrder_distinct _

theorem isFilterable_iff {type : FieldType} :
    type.isFilterable = true ↔ type ∈ [FieldType.string, .number, .choice] := by
  cases type <;> decide

theorem any_isFilterable (fields : List ScreenField) (path : String) :
    (fields.any fun f => f.name == path && f.type.isFilterable) = decide (∃ field ∈ fields,
      field.name = path ∧ field.type ∈ [FieldType.string, .number, .choice]) := by
  rw [Bool.eq_iff_iff, decide_eq_true_iff, List.any_eq_true]
  simp only [Bool.and_eq_true, beq_iff_eq, isFilterable_iff]

theorem orFirst_orFirst (h : fields ≠ []) (paths : List String) :
    ScreenField.OrFirst fields paths (orFirst paths fields) := by
  unfold orFirst
  cases paths with
  | nil =>
      obtain ⟨field, rest, rfl⟩ := List.exists_cons_of_ne_nil h
      exact .first field rest
  | cons path rest => exact .paths (List.cons_ne_nil _ _)

end Lists

theorem map_name_builtFields (known : FieldMap) (views : Views) :
    (builtFields known views).map (·.name) = (plannedFields known views).map (·.path) := by
  rw [← List.forall₂_eq_eq_eq, List.forall₂_map_left_iff, List.forall₂_map_right_iff]
  exact (forall₂_builtFields known views).flip.imp fun _ _ h => h.2.name

/-- Screens that are made from a plan are composed of its fields if they have any. -/
theorem composedOf_of_validated {r : Resource} {s : ScreenSpec}
    (h : (ofPlan r views).validated = .ok s) : s.ComposedOf r views := by
  have hfields : builtFields r.schemaFields views ≠ [] := by
    intro hnil
    rw [validated_ofPlan_of_nil hnil] at h
    contradiction
  obtain rfl : ofPlan r views = s := Except.ok.inj ((validated_ofPlan hfields).symm.trans h)
  constructor
  case names_nodup => exact builtFields_names_nodup _ _
  case mem_names_iff =>
    intro name
    exact map_name_builtFields r.schemaFields views ▸ mem_paths_plannedFields_iff
  case joined =>
    exact ⟨_, plannedFields_precedes r.schemaFields views, forall₂_builtFields _ _⟩
  case listed =>
    refine ⟨_, named_viewPaths _ views [.list], orFirst_orFirst hfields _, ?_⟩
    exact List.filter_congr fun path _ => any_isFilterable _ path
  case formed =>
    exact ⟨_, named_viewPaths _ views [.create, .edit], orFirst_orFirst hfields _⟩

/-- Goods, which are listed by their title, price and whether they are sold. -/
def shopGoods : Resource :=
  let property (type : String) : Json := .object [("type", .string type)]
  let goods : Json := .object [("properties", .object [("price", property "number"),
    ("sold", property "boolean"), ("title", property "string")]), ("type", .string "object")]
  ⟨"Goods", "goods", [⟨"list", .get, .list, "/goods", none, none, goods⟩]⟩

/-- Views that disagree about the order and the label of titles and show what goods do not have. -/
def shopViews : Views :=
  let view (fields : List FieldPlan) : Option ViewPlan := some ⟨fields⟩
  { list := view [⟨"sold", none, none, none⟩, ⟨"owner", none, none, none⟩,
      ⟨"title", some "Name", none, none⟩, ⟨"sold", none, some true, none⟩]
    detail := view [⟨"title", some "Title", none, some (Double.ofInt 1)⟩,
      ⟨"price", none, none, some (Double.ofInt 2)⟩]
    create := none
    edit := view [⟨"price", none, some true, none⟩] }

/-- The screens for goods by these views. -/
def shopScreens : ScreenSpec where
  entity := "Goods"
  fields := [⟨"price", "Price", .number, false, none, none⟩,
    ⟨"sold", "Sold", .boolean, false, none, none⟩, ⟨"title", "Name", .string, false, none, none⟩]
  columns := ["sold", "title"]
  formFields := ["price"]
  filters := ["title"]
  idField := none

theorem composedOf_of_validated_shop :
    (ofPlan shopGoods shopViews).validated = .ok shopScreens ∧
      shopScreens.ComposedOf shopGoods shopViews := by
  have hplanned : plannedFields shopGoods.schemaFields shopViews =
      [⟨"price", none, none, some (Double.ofInt 2)⟩, ⟨"sold", none, none, none⟩,
        ⟨"title", some "Name", none, none⟩] := by
    apply FieldPlan.sort_eq
    · decide +kernel
    · decide +kernel
  have hscreens : ofPlan shopGoods shopViews = shopScreens := by
    rw [ofPlan, hplanned]
    decide +kernel
  have hvalid : (ofPlan shopGoods shopViews).validated = .ok shopScreens := by
    rw [hscreens]
    decide +kernel
  exact ⟨hvalid, composedOf_of_validated hvalid⟩

end ScreenSpec

end ApiScreens
