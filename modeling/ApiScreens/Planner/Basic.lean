import ApiScreens.Plan.Shown
import ApiScreens.Plan.Validate
import ApiScreens.Schema.Flatten

/-!
# Planners

A planner makes a plan for the model of an API. Two planners do so without a language model: one
always answers the same payload, the other lists in each view the properties that its schema has.
-/

namespace ApiScreens

/-- A planner by its name and what it does. -/
structure Planner (m : Type → Type) where
  name : String
  plan : ApiModel → m (Except Diagnostic Plan)

namespace FieldPlan

/-- A field that has nothing but a path and a place in the order. -/
def atPlace (path : String) (place : Nat) : FieldPlan :=
  ⟨path, none, none, some (Double.ofInt place)⟩

end FieldPlan

namespace Resource

/-- The properties that a view shows, in their order. -/
def derivedView (r : Resource) (view : ViewKind) : ViewPlan :=
  let names := ((r.shown? view).bind Schema.object?).elim [] fun s =>
    (Schema.properties s).map (·.1)
  ⟨names.zipIdx.map fun (name, place) => FieldPlan.atPlace name place⟩

/-- A view if the operations call for it. -/
def derivedView? (r : Resource) (view : ViewKind) : Option ViewPlan :=
  if view ∈ r.expectedViews then some (r.derivedView view) else none

/-- The plan that follows from the schemas of a resource. -/
def derivedPlan (r : Resource) : ResourcePlan :=
  ⟨r.name, r.derivedView? .list, r.derivedView? .detail, r.derivedView? .create,
    r.derivedView? .edit⟩

end Resource

namespace Plan

/-- The plan that follows from the schemas of an API. -/
def derived (model : ApiModel) : Plan := ⟨model.resources.map Resource.derivedPlan⟩

end Plan

namespace Planner

variable {m : Type → Type} [Monad m]

/-- The planner that answers a payload. -/
def fixed (payload : Json) : Planner m :=
  ⟨"fixture", fun _ => pure ((Plan.ofJson payload).mapError PlanIssue.diagnostic)⟩

/-- The planner that lists properties. -/
def derived : Planner m :=
  ⟨"derived", fun model => pure ((Plan.derived model).checked.mapError PlanIssue.diagnostic)⟩

end Planner

end ApiScreens
