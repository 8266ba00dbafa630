import ApiScreens.Api.Model
import ApiScreens.Document.Subset
import ApiScreens.Text.Blank

/-!
# Declarations of operations

The operations that a document without references declares, and the operation of a resource that
each of them amounts to.
-/

namespace ApiScreens

/-- An operation as a document declares it. -/
structure Declaration where
  path : String
  method : Method
  operationId : Option String
  tags : List String
  node : Json
  pointer : Json.Pointer

/-- Why a declaration is no operation on a resource. -/
inductive DeclarationError where
  | noKind (method : Method) (path : String) (parameters : Nat)
  | noResponse (method : Method) (path : String)
  | noRequest (method : Method) (path : String) (kind : OperationKind)
deriving DecidableEq

namespace DeclarationError

/-- What a message says about the cause. -/
def message : DeclarationError → String
  | noKind method path parameters =>
    s!"non-CRUD operation: {method.name} {path} ({parameters} path parameters)"
  | noResponse method path =>
    s!"{method.name} {path} has no 200/201 application/json response schema"
  | noRequest method path kind =>
    s!"{method.name} {path} ({kind.name}) has no application/json request body schema"

/-- The fault that is reported for a declaration. -/
def diagnostic (e : DeclarationError) (place : Json.Pointer) : Diagnostic :=
  (Diagnostic.apiModelInvalid e.message).located <| match e with
    | noRequest .. => Json.Pointer.push place "requestBody"
    | _ => place

end DeclarationError

namespace Declaration

/-- The declaration of a method at a path. -/
def ofNode (path : String) (method : Method) (node : Json) : Declaration where
  path := path
  method := method
  operationId := ((node.get? "operationId").bind Json.string?).filter (!Text.isBlankText ·)
  tags := (((node.get? "tags").bind Json.items?).getD []).filterMap Json.string?
  node := node
  pointer := Json.Pointer.ofTokens ["paths", path, method.key]

/-- The declarations at a path. -/
def ofPath (path : String) (item : Json) : List Declaration :=
  Method.all.filterMap fun method => (item.get? method.key).map (ofNode path method)

/-- The declarations of a document, by path and then by method. -/
def all (root : Json) : List Declaration :=
  (Subset.paths root).flatMap fun (path, item) => ofPath path item

/-- The identifier of an operation: its own, or its method and path. -/
def id (d : Declaration) : String := d.operationId.getD s!"{d.method.name}:{d.path}"

/-- The parameters of an operation's path. -/
def parameters (d : Declaration) : List String := PathTemplate.parameters d.path

/-- The schema of JSON content, which must be an object. -/
def contentSchema? (holder : Json) : Option Json :=
  (Subset.getPath? holder ["content", jsonMediaType, "schema"]).filter Json.isObject

/-- The schema of the first success response that has one. -/
def responseSchema? (d : Declaration) : Option Json := do
  let responses ← d.node.get? "responses"
  successCodes.findSome? fun code => (responses.get? code).bind contentSchema?

/-- The schema of the request body. -/
def requestSchema? (d : Declaration) : Option Json :=
  (d.node.get? "requestBody").bind contentSchema?

/-- The operation on a resource that a declaration amounts to. -/
def operation (d : Declaration) : Except Diagnostic Operation := do
  let fail (e : DeclarationError) : Except Diagnostic Operation := .error (e.diagnostic d.pointer)
  match OperationKind.infer? d.method d.parameters.length with
  | none => fail (.noKind d.method d.path d.parameters.length)
  | some kind =>
    match d.responseSchema? with
    | none => fail (.noResponse d.method d.path)
    | some response =>
      if kind.needsRequest && d.requestSchema?.isNone then fail (.noRequest d.method d.path kind)
      else
        let identifier := if kind.hasIdentifier then d.parameters.head? else none
        .ok ⟨d.id, d.method, kind, d.path, identifier, d.requestSchema?, response⟩

end Declaration

end ApiScreens
