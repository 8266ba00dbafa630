import ApiScreens.Api.Model
import ApiScreens.Plan.Normalize
import ApiScreens.Plan.Shown
import ApiScreens.Schema.Flatten
import ApiScreens.Screen.Basic
import ApiScreens.Text.Blank
import ApiScreens.Text.Slug

/-!
# From plans to screens

A plan for a resource is joined with what the schemas of the resource say about its fields. Fields
that the schemas do not have are left out, and so are views without a field that is left, which
show the first field instead.
-/

namespace ApiScreens

namespace Resource

/-- The schemas whose fields screens may show. -/
def schemas (r : Resource) : List Json := ViewKind.all.filterMap r.shown?

/-- What the schemas say about the fields of a resource. -/
def schemaFields (r : Resource) : FieldMap := r.schemas.foldl Schema.addTo []

/-- The field that identifies an item: `id` if lists show one, or the parameter of the first
operation that has one. -/
def idField? (r : Resource) : Option String :=
  if (r.response? .list).any (Schema.declares · "id") then some "id"
  else [OperationKind.detail, .update, .delete].findSome? fun kind =>
    (r.operation? kind).bind (·.identifier)

end Resource

namespace ScreenSpec

/-- The label of a field: the planned one unless it is blank, or a title made from the path. -/
def labelFor (f : FieldPlan) : String :=
  match f.label with
  | some label => if Text.isBlankText label then Text.humanize f.path else Text.trim label
  | none => Text.humanize f.path

/-- The fields of all views that the schemas know, the first one of every path, sorted. -/
def plannedFields (known : FieldMap) (views : Views) : List FieldPlan :=
  let planned := views.toList.flatMap fun (_, view) => view.fields
  FieldPlan.sort (distinctBy (·.path) (planned.filter fun f => known.has f.path))

/-- The field that a planned one becomes. -/
def fieldFor? (known : FieldMap) (f : FieldPlan) : Option ScreenField :=
  (known.get? f.path).map fun info =>
    ⟨f.path, labelFor f, info.type, info.required, info.options, f.readOnly⟩

/-- The different paths of some views that fields have, in the order of the views. -/
def viewPaths (fields : List ScreenField) (views : Views) (kinds : List ViewKind) :
    List String :=
  let paths := (kinds.filterMap views.get?).flatMap ViewPlan.paths
  distinct (paths.filter fun p => fields.any (·.name == p))

/-- The paths, or the name of the first field if there are none. -/
def orFirst (paths : List String) (fields : List ScreenField) : List String :=
  if paths.isEmpty then (fields.head?.map (·.name)).toList else paths

/-- The screens of a resource by its plan, not yet validated. -/
def ofPlan (r : Resource) (views : Views) : ScreenSpec :=
  let known := r.schemaFields
  let fields := (plannedFields known views).filterMap (fieldFor? known)
  let listed := viewPaths fields views [.list]
  { entity := r.name
    fields := fields
    columns := orFirst listed fields
    formFields := orFirst (viewPaths fields views [.create, .edit]) fields
    filters := listed.filter fun p => fields.any fun f => f.name == p && f.type.isFilterable
    idField := r.idField? }

end ScreenSpec

namespace Plan

/-- Adds the screens for one resource of a plan. Of several plans for a resource the first
counts. -/
def lowerResource (model : ApiModel) (specs : Keyed ScreenSpec) (p : ResourcePlan) :
    Except ScreenError (Keyed ScreenSpec) :=
  match model.resources.find? (·.key == Text.slug p.name) with
  | none => .error (.noResource p.name)
  | some r =>
    if specs.has r.key then .ok specs
    else do
      let spec ← (ScreenSpec.ofPlan r p.views).validated
      return specs.insert r.key spec

/-- The screens of a plan by the keys of its resources. -/
def lower (model : ApiModel) (plan : Plan) : Except ScreenError (Keyed ScreenSpec) :=
  plan.resources.foldlM (lowerResource model) []

end Plan

end ApiScreens
