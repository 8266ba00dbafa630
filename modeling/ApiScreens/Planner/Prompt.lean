import ApiScreens.Chat.Basic
import ApiScreens.Json.Printer
import ApiScreens.Plan.Shown

/-!
# Prompts of the planner

A language model is asked for a plan with two messages: the form that a plan must have, and the
model of the API with the views that each resource needs. The model of the API stands last, as one
line of canonical text, so that the request shows it in full.
-/

namespace ApiScreens.Prompt

/-- What the model is told about plans. -/
def system : String :=
  "You plan CRUD user interfaces for REST APIs.\n" ++
  "\n" ++
  "Reply with a single JSON object and nothing else. " ++
  "It must match this shape exactly:\n" ++
  "\n" ++
  "\x7b\"resources\": [\x7b\"name\": string, \"views\": \x7b\"list\"?: View, " ++
  "\"detail\"?: View, \"create\"?: View, \"edit\"?: View\x7d\x7d]\x7d\n" ++
  "View  = \x7b\"fields\": [Field]\x7d\n" ++
  "Field = \x7b\"path\": string, \"label\"?: string, \"readOnly\"?: boolean, " ++
  "\"order\"?: number\x7d\n" ++
  "\n" ++
  "Rules:\n" ++
  "- Use exactly the resource names given by the user. Emit one entry per resource.\n" ++
  "- A view is present if and only if the resource has an operation of the matching kind: " ++
  "list -> list, detail -> detail, create -> create, update -> edit.\n" ++
  "- list and detail fields must be properties of the response schema; " ++
  "create and edit fields must be properties of the request schema.\n" ++
  "- \"path\" is a dot path into the schema (e.g. \"address.city\"). Do not invent paths.\n" ++
  "- Do not add keys that are not listed above.\n"

/-- The line for a resource and the views it needs. -/
def resourceLine (r : Resource) : String :=
  "- " ++ r.name ++ ": " ++ String.intercalate ", " (r.expectedViews.map ViewKind.name) ++ "\n"

/-- What the model is told about an API. -/
def user (model : ApiModel) : String :=
  "API: " ++ model.info.title ++ " (" ++ model.info.version ++ ")\n" ++
  "\n" ++
  "Resources and the views they need:\n" ++
  String.join (model.resources.map resourceLine) ++
  "\n" ++
  "ApiIR:\n" ++
  model.toJson.canonicalText ++ "\n"

end ApiScreens.Prompt

namespace ApiScreens

/-- The request for a plan. -/
def ChatRequest.forModel (model : ApiModel) (maxTokens : UInt32) : ChatRequest :=
  ⟨[⟨.system, Prompt.system⟩, ⟨.user, Prompt.user model⟩], maxTokens⟩

end ApiScreens
