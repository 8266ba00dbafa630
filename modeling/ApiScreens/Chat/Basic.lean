import ApiScreens.Chat.Status
import ApiScreens.Json.Basic

/-!
# Conversations with a language model

What a language model is asked and what it answers, and the ways in which a call can fail.
-/

namespace ApiScreens

/-- Who says a message. -/
inductive ChatRole where
  | system
  | user
deriving DecidableEq

/-- The name of a role. -/
def ChatRole.name : ChatRole → String
  | system => "system"
  | user => "user"

/-- A message. -/
structure ChatMessage where
  role : ChatRole
  content : String
deriving DecidableEq

/-- The JSON form of a message. -/
def ChatMessage.toJson (m : ChatMessage) : Json :=
  .object [("role", .string m.role.name), ("content", .string m.content)]

/-- A request: the messages so far and a limit on the answer's length. -/
structure ChatRequest where
  messages : List ChatMessage
  maxTokens : UInt32
deriving DecidableEq

/-- An answer, with the name of the model that gave it and what it cost. -/
structure ChatCompletion where
  content : String
  model : String
  promptTokens : UInt64
  completionTokens : UInt64
deriving DecidableEq

/-- The completion that stands in for a call without one. -/
def ChatCompletion.none : ChatCompletion := ⟨"", "", 0, 0⟩

/-- Why a call gave no answer. -/
inductive ChatError where
  | transport (cause : String)
  | provider (status : HttpStatus) (message : String)
  | malformed (cause : String)
  | invalidKey (cause : String)
deriving DecidableEq

/-- What a message says about a failed call. -/
def ChatError.message : ChatError → String
  | transport cause => "request failed: " ++ cause
  | provider status message => "provider returned " ++ status.text ++ ": " ++ message
  | malformed cause => "malformed provider response: " ++ cause
  | invalidKey cause => "invalid api key header: " ++ cause

/-- A language model that can be called: its name and a way to call it. -/
structure ChatClient (m : Type → Type) where
  model : String
  complete : ChatRequest → m (Except ChatError ChatCompletion)

end ApiScreens
