import ApiScreens.Api.Method
import ApiScreens.Json.Record

/-!
# Models of APIs

What is left of a document once its operations have been put together by resource: for each
resource a key, a name to show, and its operations with the schemas of what they send and return.
-/

namespace ApiScreens

/-- An operation on a resource. -/
structure Operation where
  id : String
  method : Method
  kind : OperationKind
  path : String
  identifier : Option String
  request : Option Json
  response : Json
deriving DecidableEq

/-- A resource with its operations. -/
structure Resource where
  name : String
  key : String
  operations : List Operation
deriving DecidableEq

/-- The title and the version of an API. -/
structure ApiInfo where
  title : String
  version : String
deriving DecidableEq

/-- The model of an API. -/
structure ApiModel where
  info : ApiInfo
  resources : List Resource
deriving DecidableEq

namespace Operation

/-- The JSON form of an operation. -/
def toJson (op : Operation) : Json :=
  .object ([("id", .string op.id), ("method", .string op.method.name),
      ("kind", .string op.kind.name), ("path", .string op.path)] ++
    Json.memberOf? "identifierParam" (op.identifier.map .string) ++
    Json.memberOf? "requestSchema" op.request ++ [("responseSchema", op.response)])

/-- The declaration of an operation's JSON form. -/
def shape : Json.RecordShape :=
  ⟨"Operation", [⟨"id", true⟩, ⟨"method", true⟩, ⟨"kind", true⟩, ⟨"path", true⟩,
    ⟨"identifierParam", false⟩, ⟨"requestSchema", false⟩, ⟨"responseSchema", true⟩], false⟩

/-- Reads a member of an operation. -/
def put (key : String) (v : Json) (op : Operation) : Except Json.Mismatch Operation :=
  match key with
  | "id" => do return { op with id := ← Json.readText v }
  | "method" => do
    return { op with method := ← Json.readName (Method.all.map fun m => (m.name, m)) v }
  | "kind" => do
    return { op with kind := ← Json.readName (OperationKind.all.map fun k => (k.name, k)) v }
  | "path" => do return { op with path := ← Json.readText v }
  | "identifierParam" => do
    return { op with identifier := ← Json.readOptional Json.readText v }
  | "requestSchema" => do return { op with request := ← Json.readOptional Json.readAny v }
  | _ => .ok { op with response := v }

/-- Reads an operation. -/
def read : Json.Reads Operation := shape.read put ⟨"", .get, .list, "", none, none, .null⟩

end Operation

namespace Resource

/-- The first operation of a kind. -/
def operation? (r : Resource) (kind : OperationKind) : Option Operation :=
  r.operations.find? (·.kind == kind)

/-- The schema of what the first operation of a kind returns. -/
def response? (r : Resource) (kind : OperationKind) : Option Json :=
  (r.operation? kind).map (·.response)

/-- The schema of what the first operation of a kind is sent. -/
def request? (r : Resource) (kind : OperationKind) : Option Json :=
  (r.operation? kind).bind (·.request)

/-- The JSON form of a resource. -/
def toJson (r : Resource) : Json :=
  .object [("name", .string r.name), ("key", .string r.key),
    ("operations", .array (r.operations.map Operation.toJson))]

/-- The declaration of a resource's JSON form. -/
def shape : Json.RecordShape :=
  ⟨"Resource", [⟨"name", true⟩, ⟨"key", true⟩, ⟨"operations", true⟩], false⟩

/-- Reads a member of a resource. -/
def put (key : String) (v : Json) (r : Resource) : Except Json.Mismatch Resource :=
  match key with
  | "name" => do return { r with name := ← Json.readText v }
  | "key" => do return { r with key := ← Json.readText v }
  | _ => do return { r with operations := ← Json.readList Operation.read v }

/-- Reads a resource. -/
def read : Json.Reads Resource := shape.read put ⟨"", "", []⟩

end Resource

namespace ApiInfo

/-- The JSON form of a title and version. -/
def toJson (i : ApiInfo) : Json :=
  .object [("title", .string i.title), ("version", .string i.version)]

/-- The declaration of the JSON form of a title and version. -/
def shape : Json.RecordShape := ⟨"ApiInfo", [⟨"title", true⟩, ⟨"version", true⟩], false⟩

/-- Reads a title or a version. -/
def put (key : String) (v : Json) (i : ApiInfo) : Except Json.Mismatch ApiInfo :=
  match key with
  | "title" => do return { i with title := ← Json.readText v }
  | _ => do return { i with version := ← Json.readText v }

/-- Reads a title and version. -/
def read : Json.Reads ApiInfo := shape.read put ⟨"", ""⟩

end ApiInfo

namespace ApiModel

/-- The JSON form of a model. -/
def toJson (m : ApiModel) : Json :=
  .object [("api", m.info.toJson), ("resources", .array (m.resources.map Resource.toJson))]

/-- The declaration of a model's JSON form. -/
def shape : Json.RecordShape := ⟨"ApiModel", [⟨"api", true⟩, ⟨"resources", true⟩], false⟩

/-- Reads a member of a model. -/
def put (key : String) (v : Json) (m : ApiModel) : Except Json.Mismatch ApiModel :=
  match key with
  | "api" => do return { m with info := ← ApiInfo.read v }
  | _ => do return { m with resources := ← Json.readList Resource.read v }

/-- Reads a model. -/
def read : Json.Reads ApiModel := shape.read put ⟨⟨"", ""⟩, []⟩

end ApiModel

end ApiScreens
