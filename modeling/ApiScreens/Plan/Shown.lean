import ApiScreens.Api.Model
import ApiScreens.Plan.Basic

/-!
# What views show

A view stands for one kind of operation. It shows the fields of what that operation returns, or, if
it is a form, of what the operation is sent.
-/

namespace ApiScreens

namespace ViewKind

/-- The kind of operation that a view stands for. -/
def operation : ViewKind → OperationKind
  | list => .list
  | detail => .detail
  | create => .create
  | edit => .update

/-- Whether a view is a form. -/
def isForm : ViewKind → Bool
  | list | detail => false
  | create | edit => true

end ViewKind

namespace Resource

/-- The schema whose fields a view of the resource shows. -/
def shown? (r : Resource) (view : ViewKind) : Option Json :=
  if view.isForm then r.request? view.operation else r.response? view.operation

/-- The views that the operations of a resource call for, in the order of the views. -/
def expectedViews (r : Resource) : List ViewKind :=
  ViewKind.all.filter fun view => (r.operation? view.operation).isSome

end Resource

end ApiScreens
