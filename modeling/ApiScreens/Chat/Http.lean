import ApiScreens.Chat.Basic
import ApiScreens.Json.Pointer
import ApiScreens.Json.Reader
import ApiScreens.Json.Record
import ApiScreens.Text.Blank
import ApiScreens.Url.Basic

/-!
# Calling a language model over HTTP

A call posts a JSON body to the completions of an endpoint and reads the first choice of the
response. The request asks for a JSON object and leaves nothing to chance.
-/

namespace ApiScreens

/-- Where a language model is called, under which key and by which name. -/
structure ChatEndpoint where
  apiKey : String
  baseUrl : String
  model : String

/-- A request that posts JSON. -/
structure HttpRequest where
  url : Url
  authorization : String
  body : Json

/-- A response by its status and its body. -/
structure HttpResponse where
  status : HttpStatus
  body : String

/-- The usage that a response states. -/
structure ChatUsage where
  promptTokens : UInt64
  completionTokens : UInt64

/-- A response that has the expected form. -/
structure ChatResponse where
  model : Option String
  choices : List (Option String)
  usage : Option ChatUsage

namespace ChatUsage

/-- The declaration of a usage. -/
def shape : Json.RecordShape :=
  ⟨"Usage", [⟨"prompt_tokens", false⟩, ⟨"completion_tokens", false⟩], false⟩

/-- Reads a number of tokens. -/
def put (key : String) (v : Json) (u : ChatUsage) : Except Json.Mismatch ChatUsage :=
  match key with
  | "prompt_tokens" => do return { u with promptTokens := ← Json.readWord v }
  | _ => do return { u with completionTokens := ← Json.readWord v }

/-- Reads a usage. -/
def read : Json.Reads ChatUsage := shape.readOnce put ⟨0, 0⟩

end ChatUsage

namespace ChatResponse

/-- Reads the content of a message, which may be missing. -/
def readMessage : Json.Reads (Option String) :=
  Json.RecordShape.readOnce ⟨"Message", [⟨"content", false⟩], false⟩
    (fun _ v _ => Json.readOptional Json.readText v) none

/-- Reads the message of a choice. -/
def readChoice : Json.Reads (Option String) :=
  Json.RecordShape.readOnce ⟨"Choice", [⟨"message", true⟩], false⟩ (fun _ v _ => readMessage v) none

/-- The declaration of a response. -/
def shape : Json.RecordShape :=
  ⟨"Response", [⟨"model", false⟩, ⟨"choices", false⟩, ⟨"usage", false⟩], false⟩

/-- Reads a member of a response. -/
def put (key : String) (v : Json) (r : ChatResponse) : Except Json.Mismatch ChatResponse :=
  match key with
  | "model" => do return { r with model := ← Json.readOptional Json.readText v }
  | "choices" => do return { r with choices := ← Json.readList readChoice v }
  | _ => do return { r with usage := ← Json.readOptional ChatUsage.read v }

/-- Reads a response. -/
def read : Json.Reads ChatResponse := shape.readOnce put ⟨none, [], none⟩

end ChatResponse

namespace ChatEndpoint

/-- Whether a header may hold the character: any but the controls of ASCII, of which the tab is
allowed. -/
def isHeaderChar (c : Char) : Bool := c == '\t' || (0x20 ≤ c.toNat && c.toNat != 0x7F)

/-- The address of completions. -/
def completionsUrl (e : ChatEndpoint) : String :=
  String.ofList (e.baseUrl.toList.reverse.dropWhile (· == '/')).reverse ++ "/chat/completions"

/-- The body that asks for a completion. -/
def body (e : ChatEndpoint) (r : ChatRequest) : Json :=
  .object [("model", .string e.model), ("messages", .array (r.messages.map ChatMessage.toJson)),
    ("temperature", .ofWord 0), ("response_format", .object [("type", .string "json_object")]),
    ("max_tokens", .ofWord r.maxTokens.toUInt64)]

/-- The request that asks for a completion. -/
def request (e : ChatEndpoint) (r : ChatRequest) : Except ChatError HttpRequest :=
  if !e.apiKey.toList.all isHeaderChar then
    .error (.invalidKey "failed to parse header value")
  else match (Url.ofText? e.completionsUrl).map Url.withoutUser with
    | some url =>
      if url.isRequestable then .ok ⟨url, "Bearer " ++ e.apiKey, e.body r⟩
      else .error (.transport ("builder error for url (" ++ url.text ++ ")"))
    | none => .error (.transport "builder error")

/-- What the body of a refusal says: its error message, if it has one, or all of it. -/
def refusal (body : String) : String :=
  match ((Json.read? body).bind (·.lookup? "/error/message")).bind Json.string? with
  | some message => message
  | none => Text.trim body

/-- What a response comes to. -/
def interpret (e : ChatEndpoint) (response : HttpResponse) : Except ChatError ChatCompletion :=
  if !response.status.isSuccess then .error (.provider response.status (refusal response.body))
  else
    match (Json.readWritten? response.body).map ChatResponse.read with
    | some (.ok r) =>
      match r.choices.head?.join with
      | some content =>
        let usage := r.usage.getD ⟨0, 0⟩
        .ok ⟨content, r.model.getD e.model, usage.promptTokens, usage.completionTokens⟩
      | none => .error (.malformed "no message content")
    | _ => .error (.malformed "error decoding response body")

/-- The client that calls an endpoint with a way to exchange a request for a response. -/
def client {m : Type → Type} [Monad m] (e : ChatEndpoint)
    (exchange : HttpRequest → m (Except ChatError HttpResponse)) : ChatClient m :=
  ⟨e.model, fun r => do
    match e.request r with
    | .error cause => return .error cause
    | .ok request => return (← exchange request).bind e.interpret⟩

end ChatEndpoint

/-- The failure of a request that reaches nobody. -/
def HttpRequest.unsent (r : HttpRequest) : ChatError :=
  .transport ("error sending request for url (" ++ r.url.text ++ ")")

end ApiScreens
