import ApiScreens.Api.Method
import ApiScreens.Api.PathTemplate
import ApiScreens.Document.Reference

/-!
# The supported subset of documents

A path has one parameter at most; an operation has one tag at most, one success response, and a
body where its method calls for one; the schema of a success response combines no other schemas, as
far as its items and properties reach, references followed. All violations of a document are
reported, paths in the order of their members and methods in their own order.
-/

namespace ApiScreens

/-- The media type whose schemas are looked at. -/
def jsonMediaType : String := "application/json"

/-- The response codes of success. -/
def successCodes : List String := ["200", "201"]

/-- The keywords that combine schemas. -/
def compositionKeywords : List String := ["oneOf", "anyOf", "allOf"]

/-- What the subset does not support. -/
inductive Violation where
  | pathParameters (path : String) (count : Nat)
  | tags (method : Method) (count : Nat)
  | successResponses (method : Method) (codes : List String)
  | missingBody (method : Method)
  | composition (keyword : String)
deriving DecidableEq

namespace Violation

/-- What a message says about the violation. -/
def message : Violation → String
  | pathParameters path count =>
    s!"path '{path}' has {count} templated segments; at most one is supported"
  | tags method count => s!"{method.name} operation has {count} tags; at most one is supported"
  | successResponses method codes =>
    let listed := String.intercalate ", " codes
    s!"{method.name} operation declares {codes.length} success responses ({listed}); " ++
      "exactly one of 200/201 is supported"
  | missingBody method => s!"{method.name} operation must declare a requestBody"
  | composition keyword => s!"schema keyword '{keyword}' is not supported"

/-- The kind of fault. -/
def code : Violation → FaultCode
  | pathParameters .. => .multiplePathParams
  | tags .. => .multipleTags
  | successResponses .. => .multipleSuccessResponses
  | missingBody _ => .missingRequestBody
  | composition _ => .unsupportedSchemaKeyword

/-- The fault that is reported for a place. -/
def diagnostic (v : Violation) (place : Json.Pointer) : Diagnostic :=
  ⟨v.code, .validate, v.message, some place⟩

end Violation

namespace Subset

open Json (Pointer)

/-- The state of a scan: the references already followed and the violations, newest first. -/
structure Scan where
  followed : List String
  found : List Diagnostic

namespace Scan

/-- Adds the combining keywords of an object. -/
def addKeywords (place : Pointer) (members : Json.Members) (s : Scan) : Scan :=
  { s with found :=
      ((compositionKeywords.filter members.has).map fun k =>
        (Violation.composition k).diagnostic (Pointer.push place k)).reverse ++ s.found }

end Scan

mutual

/-- Scans the schema at a pointer, with `follow` scanning what a reference names. -/
def scanNode (follow : String → Scan → Scan) (place : Pointer) : Json → Scan → Scan
  | .object members, s =>
    match (Json.object members).reference? with
    | some reference => follow reference s
    | none =>
      scanProperties follow place members
        (scanItems follow place members (s.addKeywords place members))
  | _, s => s

/-- Scans the schema of the items. -/
def scanItems (follow : String → Scan → Scan) (place : Pointer) : Json.Members → Scan → Scan
  | [], s => s
  | (k, v) :: rest, s =>
    if k = "items" then scanNode follow (Pointer.push place "items") v s
    else scanItems follow place rest s

/-- Scans the schemas of the properties. -/
def scanProperties (follow : String → Scan → Scan) (place : Pointer) :
    Json.Members → Scan → Scan
  | [], s => s
  | (k, v) :: rest, s =>
    if k = "properties" then
      match v with
      | .object properties => scanEach follow (Pointer.push place "properties") properties s
      | _ => s
    else scanProperties follow place rest s

/-- Scans schemas by name. -/
def scanEach (follow : String → Scan → Scan) (place : Pointer) : Json.Members → Scan → Scan
  | [], s => s
  | (k, v) :: rest, s =>
    scanEach follow place rest (scanNode follow (Pointer.push place k) v s)

end

/-- Follows a reference once, with `inner` scanning what it names. -/
def followOnce (root : Json) (inner : Pointer → Json → Scan → Scan) (reference : String)
    (s : Scan) : Scan :=
  if !Json.isLocalReference reference || s.followed.contains reference then s
  else
    let s := { s with followed := reference :: s.followed }
    match Json.referencePointer? reference, root.target? reference with
    | some pointer, some target => inner pointer target s
    | _, _ => s

/-- Scans the schema at a pointer where so many more references may be followed one inside the
other. -/
def scanAt (root : Json) : Nat → Pointer → Json → Scan → Scan
  | 0, place, schema, s => scanNode (followOnce root fun _ _ s => s) place schema s
  | more + 1, place, schema, s => scanNode (followOnce root (scanAt root more)) place schema s

/-- The violations of a response schema. -/
def schemaViolations (root : Json) (place : Pointer) (schema : Json) : List Diagnostic :=
  (scanAt root (Reference.all root).length place schema ⟨[], []⟩).found.reverse

/-- A node, or what it names if it is a local reference that names something. -/
def dereference (root node : Json) (place : Pointer) : Json × Pointer :=
  match node.reference? with
  | none => (node, place)
  | some reference =>
    match Json.isLocalReference reference, Json.referencePointer? reference,
        root.target? reference with
    | true, some pointer, some target => (target, pointer)
    | _, _, _ => (node, place)

/-- The value at the end of a chain of keys. -/
def getPath? (value : Json) (keys : List String) : Option Json :=
  keys.foldlM Json.get? value

/-- The violations of the response with a code. -/
def responseViolations (root : Json) (responses : Json) (place : Pointer) (code : String) :
    List Diagnostic :=
  match responses.get? code with
  | none => []
  | some response =>
    let (response, place) := dereference root response (Pointer.push place code)
    let keys := ["content", jsonMediaType, "schema"]
    match getPath? response keys with
    | none => []
    | some schema => schemaViolations root (Pointer.pushAll place keys) schema

/-- The violation of having several tags. -/
def tagViolations (method : Method) (operation : Json) (place : Pointer) : List Diagnostic :=
  match (operation.get? "tags").bind Json.items? with
  | some tags =>
    if 1 < tags.length then
      [(Violation.tags method tags.length).diagnostic (Pointer.push place "tags")]
    else []
  | none => []

/-- The violation of having several success responses. -/
def successViolations (method : Method) (responses : Json) (place : Pointer) :
    List Diagnostic :=
  let present := successCodes.filter fun code => (responses.get? code).isSome
  if 1 < present.length then
    [(Violation.successResponses method present).diagnostic place]
  else []

/-- The violation of having no body where one is called for. -/
def bodyViolations (method : Method) (operation : Json) (place : Pointer) : List Diagnostic :=
  if method.needsBody && (operation.get? "requestBody").isNone then
    [(Violation.missingBody method).diagnostic place]
  else []

/-- The violations of an operation. -/
def operationViolations (root : Json) (method : Method) (operation : Json) (place : Pointer) :
    List Diagnostic :=
  let responses := (operation.get? "responses").getD .null
  let responsesPlace := Pointer.push place "responses"
  tagViolations method operation place ++
    successViolations method responses responsesPlace ++
    bodyViolations method operation place ++
    successCodes.flatMap (responseViolations root responses responsesPlace)

/-- The violations of a path by itself. -/
def parameterViolations (path : String) (place : Pointer) : List Diagnostic :=
  let count := (PathTemplate.parameters path).length
  if 1 < count then [(Violation.pathParameters path count).diagnostic place] else []

/-- The violations of a path and its operations. -/
def pathViolations (root : Json) (path : String) (item : Json) : List Diagnostic :=
  let place := Pointer.ofTokens ["paths", path]
  parameterViolations path place ++
    Method.all.flatMap fun method =>
      match item.get? method.key with
      | some operation =>
        operationViolations root method operation (Pointer.push place method.key)
      | none => []

/-- The paths of a document. -/
def paths (root : Json) : Json.Members :=
  ((root.get? "paths").bind Json.members?).getD []

/-- The violations of a document. -/
def violations (root : Json) : List Diagnostic :=
  (paths root).flatMap fun (path, item) => pathViolations root path item

end Subset

end ApiScreens
