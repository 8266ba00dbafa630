import ApiScreens.Settings.Basic
import ApiScreens.Text.Blank
import ApiScreens.Yaml.Record

/-!
# Reading settings

A settings file is a YAML document. A blank file sets nothing, a key that is not known is passed
over, and a key that is given twice is an error.
-/

namespace ApiScreens

open Yaml

namespace ModelSettings

/-- Reads how a language model is called. -/
def put (key : String) (d : Document) (n : Node) (s : ModelSettings) : Option ModelSettings :=
  match key with
  | "model" => do return { s with model := ← Node.readText d n }
  | "base_url" => do return { s with baseUrl := ← Node.readText d n }
  | "api_key_env" => do return { s with apiKeyVariable := ← Node.readText d n }
  | "timeout_secs" => do
    return { s with timeoutSeconds := UInt64.ofNat (← Node.readNat UInt64.size d n) }
  | "max_tokens" => do
    return { s with maxTokens := UInt32.ofNat (← Node.readNat UInt32.size d n) }
  | _ => do return { s with maxAttempts := UInt32.ofNat (← Node.readNat UInt32.size d n) }

/-- The keys of the section. -/
def keys : List String :=
  ["model", "base_url", "api_key_env", "timeout_secs", "max_tokens", "max_attempts"]

end ModelSettings

namespace PlannerSettings

/-- Reads which planner is used. -/
def put (key : String) (d : Document) (n : Node) (s : PlannerSettings) : Option PlannerSettings :=
  match key with
  | "kind" => do return { s with kind := ← Node.readName PlannerKind.named d n }
  | _ => do return { s with fixture := ← Node.readOptional Node.readText d n }

end PlannerSettings

namespace Settings

/-- Reads a section. -/
def put (key : String) (d : Document) (n : Node) (s : Settings) : Option Settings :=
  match key with
  | "llm" => do
    return { s with llm := ← Node.readRecord ModelSettings.keys ModelSettings.put s.llm d n }
  | "grouping" =>
    Node.readRecord ["path_prefixes"] (fun _ d n s => do
      return { s with pathPrefixes := ← Node.readList Node.readText d n }) s d n
  | "planner" => do
    return { s with
      planner := ← Node.readRecord ["kind", "fixture"] PlannerSettings.put s.planner d n }
  | "metrics" =>
    Node.readRecord ["jsonl"] (fun _ d n s => do
      return { s with metricsFile := ← Node.readOptional Node.readText d n }) s d n
  | _ => do return { s with output := ← Node.readText d n }

/-- The keys of the sections. -/
def keys : List String := ["llm", "grouping", "planner", "metrics", "output"]

/-- Reads settings from the text of a file. -/
def ofText? (text : String) : Option Settings :=
  if Text.isBlankText text then some default
  else do
    let d ← Document.ofText? text
    match d.root with
    | some root => Node.readRecord keys put default d root
    | none => some default

end Settings

end ApiScreens
