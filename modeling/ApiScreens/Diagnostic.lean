import ApiScreens.Json.Record

/-!
# Diagnostics

What a compilation reports when it fails: a code, the stage that found the fault, a message, and
where it can be said a pointer to the place.
-/

namespace ApiScreens

/-- The stages of a compilation. -/
inductive Stage where
  | parse
  | validate
  | resolve
  | canonicalize
  | apiModel
  | plan
  | lowering
deriving DecidableEq

/-- The name of a stage in reports. -/
def Stage.name : Stage → String
  | parse => "Parse"
  | validate => "Validate"
  | resolve => "Resolve"
  | canonicalize => "Canonicalize"
  | apiModel => "ApiIr"
  | plan => "UiPlan"
  | lowering => "Lowering"

/-- All stages. -/
def Stage.all : List Stage :=
  [parse, validate, resolve, canonicalize, apiModel, plan, lowering]

/-- The kinds of faults. -/
inductive FaultCode where
  | parseError
  | unsupportedSchemaKeyword
  | multipleSuccessResponses
  | multipleTags
  | missingRequestBody
  | multiplePathParams
  | externalRef
  | circularRef
  | ambiguousResourceGrouping
  | apiModelInvalid
  | planInvalid
  | modelUnavailable
  | screenInvalid
deriving DecidableEq

/-- The name of a fault in reports. -/
def FaultCode.name : FaultCode → String
  | parseError => "OAS_PARSE_ERROR"
  | unsupportedSchemaKeyword => "OAS_UNSUPPORTED_SCHEMA_KEYWORD"
  | multipleSuccessResponses => "OAS_MULTIPLE_SUCCESS_RESPONSES"
  | multipleTags => "OAS_MULTIPLE_TAGS"
  | missingRequestBody => "OAS_MISSING_REQUEST_BODY"
  | multiplePathParams => "OAS_MULTIPLE_PATH_PARAMS"
  | externalRef => "OAS_EXTERNAL_REF"
  | circularRef => "OAS_CIRCULAR_REF"
  | ambiguousResourceGrouping => "OAS_AMBIGUOUS_RESOURCE_GROUPING"
  | apiModelInvalid => "IR_INVALID"
  | planInvalid => "UIPLAN_INVALID"
  | modelUnavailable => "UIPLAN_LLM_UNAVAILABLE"
  | screenInvalid => "UISPEC_INVALID"

/-- All kinds of faults. -/
def FaultCode.all : List FaultCode :=
  [parseError, unsupportedSchemaKeyword, multipleSuccessResponses, multipleTags,
    missingRequestBody, multiplePathParams, externalRef, circularRef, ambiguousResourceGrouping,
    apiModelInvalid, planInvalid, modelUnavailable, screenInvalid]

/-- One fault of a compilation. -/
structure Diagnostic where
  code : FaultCode
  stage : Stage
  message : String
  pointer : Option String
deriving DecidableEq

namespace Diagnostic

/-- The same fault with a pointer to its place. -/
def located (d : Diagnostic) (pointer : String) : Diagnostic := { d with pointer := some pointer }

/-- A document that cannot be read. -/
def parse (message : String) : Diagnostic := ⟨.parseError, .parse, message, none⟩

/-- An operation that fits no screen. -/
def apiModelInvalid (message : String) : Diagnostic := ⟨.apiModelInvalid, .apiModel, message, none⟩

/-- A plan that is not well formed. -/
def planInvalid (message : String) : Diagnostic := ⟨.planInvalid, .plan, message, none⟩

/-- A language model that gives no answer. -/
def modelUnavailable (message : String) : Diagnostic := ⟨.modelUnavailable, .plan, message, none⟩

/-- A plan that cannot be turned into screens. -/
def screenInvalid (message : String) : Diagnostic := ⟨.screenInvalid, .lowering, message, none⟩

/-- The line that shows a fault. -/
def text (d : Diagnostic) : String := s!"{d.code.name} [{d.stage.name}] {d.message}"

/-- The members of a fault's JSON form. -/
def toJson (d : Diagnostic) : Json :=
  .object ([("code", .string d.code.name), ("stage", .string d.stage.name),
    ("message", .string d.message)] ++ Json.memberOf? "jsonPointer" (d.pointer.map .string))

/-- The declaration of a fault's JSON form. -/
def shape : Json.RecordShape :=
  ⟨"Diagnostic",
    [⟨"code", true⟩, ⟨"stage", true⟩, ⟨"message", true⟩, ⟨"jsonPointer", false⟩], false⟩

/-- Reads the kind of a fault. -/
def readCode : Json.Reads FaultCode := Json.readName (FaultCode.all.map fun c => (c.name, c))

/-- Reads a stage. -/
def readStage : Json.Reads Stage := Json.readName (Stage.all.map fun s => (s.name, s))

/-- Reads a member of a fault. -/
def put (key : String) (v : Json) (d : Diagnostic) : Except Json.Mismatch Diagnostic :=
  match key with
  | "code" => do return { d with code := ← readCode v }
  | "stage" => do return { d with stage := ← readStage v }
  | "message" => do return { d with message := ← Json.readText v }
  | _ => do return { d with pointer := ← Json.readOptional Json.readText v }

/-- Reads a fault. -/
def read : Json.Reads Diagnostic := shape.read put (parse "")

end Diagnostic

end ApiScreens
