import ApiScreens.Json.Record

/-!
# Metrics of calls

What is noted about each call of a language model.
-/

namespace ApiScreens

/-- How a call ended: with a valid answer, with an invalid one, or with none. -/
inductive CallStatus where
  | success
  | invalid
  | error
deriving DecidableEq

namespace CallStatus

/-- The name of a status. -/
def name : CallStatus → String
  | success => "success"
  | invalid => "invalid"
  | error => "error"

/-- All statuses. -/
def all : List CallStatus := [success, invalid, error]

end CallStatus

/-- The metrics of a call. -/
structure CallMetrics where
  timestamp : String
  model : String
  durationMillis : UInt64
  promptTokens : UInt64
  completionTokens : UInt64
  source : String
  status : CallStatus
deriving DecidableEq

namespace CallMetrics

/-- The source of calls that ask for plans. -/
def planSource : String := "uiplan"

/-- The JSON form of metrics. -/
def toJson (c : CallMetrics) : Json :=
  .object [("timestamp", .string c.timestamp), ("model", .string c.model),
    ("duration_ms", .ofWord c.durationMillis), ("prompt_tokens", .ofWord c.promptTokens),
    ("completion_tokens", .ofWord c.completionTokens), ("source", .string c.source),
    ("status", .string c.status.name)]

/-- The declaration of the metrics' JSON form. -/
def shape : Json.RecordShape :=
  ⟨"CallMetrics", [⟨"timestamp", true⟩, ⟨"model", true⟩, ⟨"duration_ms", true⟩,
    ⟨"prompt_tokens", true⟩, ⟨"completion_tokens", true⟩, ⟨"source", true⟩, ⟨"status", true⟩],
    false⟩

/-- Reads a member of metrics. -/
def put (key : String) (v : Json) (c : CallMetrics) : Except Json.Mismatch CallMetrics :=
  match key with
  | "timestamp" => do return { c with timestamp := ← Json.readText v }
  | "model" => do return { c with model := ← Json.readText v }
  | "duration_ms" => do return { c with durationMillis := ← Json.readWord v }
  | "prompt_tokens" => do return { c with promptTokens := ← Json.readWord v }
  | "completion_tokens" => do return { c with completionTokens := ← Json.readWord v }
  | "source" => do return { c with source := ← Json.readText v }
  | _ => do
    return { c with status := ← Json.readName (CallStatus.all.map fun s => (s.name, s)) v }

/-- Reads metrics. -/
def read : Json.Reads CallMetrics := shape.read put ⟨"", "", 0, 0, 0, "", .success⟩

end CallMetrics

end ApiScreens
