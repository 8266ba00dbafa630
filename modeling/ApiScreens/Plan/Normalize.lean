import ApiScreens.Distinct
import ApiScreens.Plan.Basic

/-!
# Normal form of plans

Resources are sorted by name. A view keeps the first field of every path and sorts its fields by
order, those without one last, and then by path.
-/

namespace ApiScreens

namespace FieldPlan

/-- Orders compare as doubles, and a missing one comes last. -/
def compareOrders : Option Double → Option Double → Ordering
  | some a, some b => Double.totalOrder a b
  | some _, none => .lt
  | none, some _ => .gt
  | none, none => .eq

/-- The order of fields in a view. -/
def fieldOrder (a b : FieldPlan) : Ordering :=
  (compareOrders a.order b.order).then (compare a.path b.path)

/-- Sorts fields stably. -/
def sort (fields : List FieldPlan) : List FieldPlan :=
  fields.mergeSort fun a b => fieldOrder a b != .gt

end FieldPlan

/-- The fields of a view in normal form. -/
def ViewPlan.normalizeFields (fields : List FieldPlan) : List FieldPlan :=
  FieldPlan.sort (distinctBy (·.path) fields)

/-- A view in normal form. -/
def ViewPlan.normalize (v : ViewPlan) : ViewPlan := ⟨normalizeFields v.fields⟩

/-- The plan for a resource with its views in normal form. -/
def ResourcePlan.normalize (r : ResourcePlan) : ResourcePlan :=
  { r with views := r.views.map ViewPlan.normalize }

/-- A plan in normal form. -/
def Plan.normalize (p : Plan) : Plan :=
  ⟨(p.resources.mergeSort fun a b => compare a.name b.name != .gt).map ResourcePlan.normalize⟩

end ApiScreens
