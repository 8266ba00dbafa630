import ApiScreens.Json.Record

/-!
# Plans of screens

A plan says for each resource which fields its views show: lists, details, and the forms to create
and to edit. Whole orders below `2 ^ 53` are written as integers, so that a zero stays a zero.
-/

namespace ApiScreens

/-- The views of a resource. -/
inductive ViewKind where
  | list
  | detail
  | create
  | edit
deriving DecidableEq

/-- The name of a view. -/
def ViewKind.name : ViewKind → String
  | list => "list"
  | detail => "detail"
  | create => "create"
  | edit => "edit"

/-- All views, in their order. -/
def ViewKind.all : List ViewKind := [list, detail, create, edit]

/-- A field of a view. -/
structure FieldPlan where
  path : String
  label : Option String
  readOnly : Option Bool
  order : Option Double
deriving DecidableEq

/-- A view by its fields. -/
structure ViewPlan where
  fields : List FieldPlan
deriving DecidableEq

/-- The views that a plan has for a resource. -/
structure Views where
  list : Option ViewPlan
  detail : Option ViewPlan
  create : Option ViewPlan
  edit : Option ViewPlan
deriving DecidableEq

/-- The plan for a resource. -/
structure ResourcePlan where
  name : String
  views : Views
deriving DecidableEq

/-- A plan. -/
structure Plan where
  resources : List ResourcePlan
deriving DecidableEq

namespace FieldPlan

/-- How an order is written. -/
def orderJson (order : Double) : Json :=
  match order.toSmallInt?.bind Json.Number.ofInt? with
  | some n => .number n
  | none => ((Json.Number.ofDouble? order).map Json.number).getD .null

/-- The JSON form of a field. -/
def toJson (f : FieldPlan) : Json :=
  .object ([("path", .string f.path)] ++ Json.memberOf? "label" (f.label.map .string) ++
    Json.memberOf? "readOnly" (f.readOnly.map .bool) ++
    Json.memberOf? "order" (f.order.map orderJson))

/-- The declaration of a field's JSON form. -/
def shape : Json.RecordShape :=
  ⟨"FieldPlan", [⟨"path", true⟩, ⟨"label", false⟩, ⟨"readOnly", false⟩, ⟨"order", false⟩], true⟩

/-- Reads a member of a field. -/
def put (key : String) (v : Json) (f : FieldPlan) : Except Json.Mismatch FieldPlan :=
  match key with
  | "path" => do return { f with path := ← Json.readText v }
  | "label" => do return { f with label := ← Json.readOptional Json.readText v }
  | "readOnly" => do return { f with readOnly := ← Json.readOptional Json.readBool v }
  | _ => do return { f with order := ← Json.readOptional Json.readDouble v }

/-- Reads a field. -/
def read : Json.Reads FieldPlan := shape.read put ⟨"", none, none, none⟩

end FieldPlan

namespace ViewPlan

/-- The paths of a view's fields. -/
def paths (v : ViewPlan) : List String := v.fields.map (·.path)

/-- The JSON form of a view. -/
def toJson (v : ViewPlan) : Json := .object [("fields", .array (v.fields.map FieldPlan.toJson))]

/-- The declaration of a view's JSON form. -/
def shape : Json.RecordShape := ⟨"ViewPlan", [⟨"fields", true⟩], true⟩

/-- Reads the fields of a view. -/
def put (_ : String) (v : Json) (_ : ViewPlan) : Except Json.Mismatch ViewPlan := do
  return ⟨← Json.readList FieldPlan.read v⟩

/-- Reads a view. -/
def read : Json.Reads ViewPlan := shape.read put ⟨[]⟩

end ViewPlan

namespace Views

/-- The view of a kind. -/
def get? (v : Views) : ViewKind → Option ViewPlan
  | .list => v.list
  | .detail => v.detail
  | .create => v.create
  | .edit => v.edit

/-- The views that are there, in their order. -/
def toList (v : Views) : List (ViewKind × ViewPlan) :=
  ViewKind.all.filterMap fun kind => (v.get? kind).map (kind, ·)

/-- Changes every view that is there. -/
def map (f : ViewPlan → ViewPlan) (v : Views) : Views :=
  ⟨v.list.map f, v.detail.map f, v.create.map f, v.edit.map f⟩

/-- The JSON form of views. -/
def toJson (v : Views) : Json :=
  .object (v.toList.map fun (kind, view) => (kind.name, view.toJson))

/-- The declaration of the views' JSON form. -/
def shape : Json.RecordShape :=
  ⟨"Views", [⟨"list", false⟩, ⟨"detail", false⟩, ⟨"create", false⟩, ⟨"edit", false⟩], true⟩

/-- Reads a view into the others. -/
def put (key : String) (v : Json) (views : Views) : Except Json.Mismatch Views :=
  match key with
  | "list" => do return { views with list := ← Json.readOptional ViewPlan.read v }
  | "detail" => do return { views with detail := ← Json.readOptional ViewPlan.read v }
  | "create" => do return { views with create := ← Json.readOptional ViewPlan.read v }
  | _ => do return { views with edit := ← Json.readOptional ViewPlan.read v }

/-- Reads views. -/
def read : Json.Reads Views := shape.read put ⟨none, none, none, none⟩

end Views

namespace ResourcePlan

/-- The JSON form of the plan for a resource. -/
def toJson (r : ResourcePlan) : Json :=
  .object [("name", .string r.name), ("views", r.views.toJson)]

/-- The declaration of the JSON form of the plan for a resource. -/
def shape : Json.RecordShape := ⟨"ResourcePlan", [⟨"name", true⟩, ⟨"views", true⟩], true⟩

/-- Reads a member of the plan for a resource. -/
def put (key : String) (v : Json) (r : ResourcePlan) : Except Json.Mismatch ResourcePlan :=
  match key with
  | "name" => do return { r with name := ← Json.readText v }
  | _ => do return { r with views := ← Views.read v }

/-- Reads the plan for a resource. -/
def read : Json.Reads ResourcePlan := shape.read put ⟨"", ⟨none, none, none, none⟩⟩

end ResourcePlan

namespace Plan

/-- The JSON form of a plan. -/
def toJson (p : Plan) : Json :=
  .object [("resources", .array (p.resources.map ResourcePlan.toJson))]

/-- The declaration of a plan's JSON form. -/
def shape : Json.RecordShape := ⟨"UiPlanIr", [⟨"resources", true⟩], true⟩

/-- Reads the resources of a plan. -/
def put (_ : String) (v : Json) (_ : Plan) : Except Json.Mismatch Plan := do
  return ⟨← Json.readList ResourcePlan.read v⟩

/-- Reads a plan by its form alone. -/
def read : Json.Reads Plan := shape.read put ⟨[]⟩

end Plan

end ApiScreens
