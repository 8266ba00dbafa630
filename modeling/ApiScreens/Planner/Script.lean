import ApiScreens.Planner.LanguageModel

/-!
# Scripted calls

A script stands in for a language model and a clock: it answers calls from a list of replies, keeps
the requests and the metrics, and its clock advances by one step whenever it is read.
-/

namespace ApiScreens

/-- The replies that are left, and what has happened so far. -/
structure Script where
  replies : List (Except ChatError ChatCompletion)
  clock : Timestamp
  step : Int
  requests : List ChatRequest
  events : List CallMetrics

namespace Script

/-- A script at its start. -/
def start (replies : List (Except ChatError ChatCompletion)) (clock : Timestamp) (step : Int) :
    Script :=
  ⟨replies, clock, step, [], []⟩

/-- What a call gets once no reply is left. -/
def ended : ChatError := .malformed "script exhausted"

/-- Reads the clock. -/
def now : StateM Script Timestamp := do
  let s ← get
  set { s with clock := s.clock.plus s.step }
  return s.clock

/-- Keeps metrics. -/
def record (event : CallMetrics) : StateM Script Unit :=
  modify fun s => { s with events := s.events ++ [event] }

/-- Answers a call. -/
def complete (request : ChatRequest) : StateM Script (Except ChatError ChatCompletion) := do
  let s ← get
  set { s with replies := s.replies.tail, requests := s.requests ++ [request] }
  return s.replies.headD (.error ended)

/-- The client of a script. -/
def client (model : String) : ChatClient (StateM Script) := ⟨model, complete⟩

/-- A planner on a script. -/
def planner (model : Option String) (maxAttempts maxTokens : UInt32) :
    ModelPlanner (StateM Script) :=
  ⟨model.map client, now, record, maxAttempts, maxTokens⟩

/-- The readings of a clock. -/
def readings : Nat → Script → List Timestamp
  | 0, _ => []
  | n + 1, s =>
    let (t, s) := now.run s
    t :: readings n s

end Script

end ApiScreens
