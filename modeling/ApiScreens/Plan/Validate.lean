import ApiScreens.Diagnostic
import ApiScreens.Plan.Basic
import ApiScreens.Text.Blank

/-!
# Validating plans

A plan is accepted if it has the declared form and no resource's name and no field's path is blank.
The first issue is answered; one of form comes before all others.
-/

namespace ApiScreens

/-- Why a plan is not accepted. -/
inductive PlanIssue where
  | mismatch (cause : Json.Mismatch)
  | blankName (resource : Nat)
  | blankPath (resource : Nat) (view : ViewKind) (field : Nat)
  | noObject

namespace PlanIssue

/-- Where in the plan the issue lies; issues of form have no place. -/
def location : PlanIssue → String
  | mismatch _ | noObject => ""
  | blankName r => s!"resources[{r}].name"
  | blankPath r view f => s!"resources[{r}].views.{view.name}.fields[{f}].path"

/-- What a message says about the issue. -/
def message : PlanIssue → String
  | mismatch cause => cause.message
  | blankName _ | blankPath .. => "must be a non-empty string"
  | noObject => "model output is not a JSON object"

/-- The message with its place in front. -/
def text (i : PlanIssue) : String :=
  if i.location.isEmpty then i.message else i.location ++ ": " ++ i.message

/-- The fault that is reported. -/
def diagnostic (i : PlanIssue) : Diagnostic := Diagnostic.planInvalid i.text

end PlanIssue

namespace Plan

/-- The blank paths in a view. -/
def blankPaths (resource : Nat) (kind : ViewKind) (view : ViewPlan) : List PlanIssue :=
  view.fields.zipIdx.filterMap fun (f, i) =>
    if Text.isBlankText f.path then some (.blankPath resource kind i) else none

/-- The blank texts in the plan for a resource. -/
def blankTexts (r : ResourcePlan) (index : Nat) : List PlanIssue :=
  (if Text.isBlankText r.name then [.blankName index] else []) ++
    r.views.toList.flatMap fun (kind, view) => blankPaths index kind view

/-- The blank texts of a plan, in its order. -/
def issues (p : Plan) : List PlanIssue :=
  p.resources.zipIdx.flatMap fun (r, i) => blankTexts r i

/-- The plan, if it has no blank texts. -/
def checked (p : Plan) : Except PlanIssue Plan :=
  match p.issues.head? with
  | some issue => .error issue
  | none => .ok p

/-- The plan that a value writes. -/
def ofJson (payload : Json) : Except PlanIssue Plan := do
  let plan ← (read payload).mapError PlanIssue.mismatch
  plan.checked

end Plan

end ApiScreens
