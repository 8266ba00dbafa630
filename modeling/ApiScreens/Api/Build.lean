import ApiScreens.Api.Declaration
import ApiScreens.Api.Grouping
import ApiScreens.Document.Canonical

/-!
# Building the model of an API

Every declaration of a document becomes an operation of one resource. Resources are sorted by key,
and are named by their first operation in the document; operations are sorted by kind, path and
method.
-/

namespace ApiScreens

/-- The model of a document, with its hash and the grouping it was built by. -/
structure ApiBuild where
  model : ApiModel
  hash : String
  grouping : Grouping

namespace ApiBuild

/-- Adds an operation to the resource with a key, which gets the name if it is new. Resources
are sorted by key. -/
def addOperation (key name : String) (op : Operation) : List Resource → List Resource
  | [] => [⟨name, key, [op]⟩]
  | r :: rest =>
    if key < r.key then ⟨name, key, [op]⟩ :: r :: rest
    else if key = r.key then { r with operations := r.operations ++ [op] } :: rest
    else r :: addOperation key name op rest

/-- The order of operations in a resource. -/
def operationOrder (a b : Operation) : Ordering :=
  ((compare a.kind.rank b.kind.rank).then (compare a.path b.path)).then
    (compare a.method.rank b.method.rank)

/-- Sorts the operations of a resource. -/
def sortOperations (r : Resource) : Resource :=
  { r with operations := r.operations.mergeSort fun a b => operationOrder a b != .gt }

/-- The title and the version that a document states. -/
def info (root : Json) : ApiInfo :=
  let stated (key : String) := ((root.get? "info").bind (·.get? key)).bind Json.string?
  ⟨(stated "title").getD "Untitled API", (stated "version").getD "0.0.0"⟩

/-- The fault of a document without operations. -/
def noOperations : Diagnostic :=
  ⟨.ambiguousResourceGrouping, .apiModel, "no CRUD operations found", some "/paths"⟩

/-- Adds the operation of a declaration to the resources. -/
def addDeclaration (grouping : Grouping) (prefixes : List String) (resources : List Resource)
    (d : Declaration) : Except Diagnostic (List Resource) := do
  let op ← d.operation
  let (key, name) := grouping.resource prefixes d.tags d.path
  return addOperation key name op resources

/-- Builds the model of a document without references. -/
def ofDocument (root : Json) (prefixes : List String) : Except Diagnostic ApiBuild := do
  let declarations := Declaration.all root
  if declarations.isEmpty then .error noOperations
  else
    let grouping := Grouping.choose (declarations.map (·.tags))
    let resources ← declarations.foldlM (addDeclaration grouping prefixes) []
    let model : ApiModel := ⟨info root, resources.map sortOperations⟩
    return ⟨model, Canonical.stableHash model.toJson, grouping⟩

end ApiBuild

end ApiScreens
