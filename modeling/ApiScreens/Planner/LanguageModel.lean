import ApiScreens.Metrics.Call
import ApiScreens.Metrics.Timestamp
import ApiScreens.Planner.Basic
import ApiScreens.Planner.Budget
import ApiScreens.Planner.Prompt
import ApiScreens.Planner.Reply

/-!
# Planning with a language model

The planner sends one request and repeats it while the replies hold no valid plan and the budget
allows. A call that fails ends the attempts at once. Each call is noted with the times before and
after it.
-/

namespace ApiScreens

/-- Why an attempt gave no plan. -/
inductive AttemptFault where
  | invalid (issue : PlanIssue)
  | unavailable (cause : ChatError)

namespace Reply

/-- The plan that the content of a reply gives. -/
def plan (content : String) : Except PlanIssue Plan :=
  match value? content with
  | some payload => Plan.ofJson payload
  | none => .error .noObject

/-- What a call comes to. -/
def judge : Except ChatError ChatCompletion → Except AttemptFault Plan
  | .ok completion => (plan completion.content).mapError .invalid
  | .error cause => .error (.unavailable cause)

end Reply

namespace CallStatus

/-- How a call ended by what it came to. -/
def ofOutcome : Except AttemptFault Plan → CallStatus
  | .ok _ => success
  | .error (.invalid _) => invalid
  | .error (.unavailable _) => error

end CallStatus

/-- What is noted about a call; the name of the client's model stands in for one that the reply
does not give. -/
def CallMetrics.ofCall (model : String) (start finish : Timestamp)
    (reply : Except ChatError ChatCompletion) : CallMetrics :=
  let completion := match reply with
    | .ok c => c
    | .error _ => ChatCompletion.none
  { timestamp := start.text
    model := if completion.model.isEmpty then model else completion.model
    durationMillis := UInt64.ofNat (start.elapsed finish)
    promptTokens := completion.promptTokens
    completionTokens := completion.completionTokens
    source := CallMetrics.planSource
    status := CallStatus.ofOutcome (Reply.judge reply) }

namespace AttemptBudget

theorem remaining_record_invalid {b : AttemptBudget} {n : UInt32} (h : b.next? = some n) :
    (b.record .invalid).remaining < b.remaining := by
  simp only [remaining, record, h]
  by_cases hn : n < b.limit
  · have hlt : n.toNat < b.limit.toNat := UInt32.lt_iff_toNat_lt.1 hn
    have hb := b.limit.toNat_lt
    have : (n + 1).toNat = n.toNat + 1 := by
      rw [UInt32.toNat_add]
      simp
      omega
    simp only [hn, if_true, next?, AttemptState.pending?]
    omega
  · simp [hn, next?, AttemptState.pending?]

end AttemptBudget

/-- A planner's language model and what surrounds its calls. -/
structure ModelPlanner (m : Type → Type) where
  client : Option (ChatClient m)
  now : m Timestamp
  record : CallMetrics → m Unit
  maxAttempts : UInt32
  maxTokens : UInt32

namespace ModelPlanner

variable {m : Type → Type} [Monad m]

/-- The limit on the length of a reply where none is stated. -/
def defaultMaxTokens : UInt32 := 4096

/-- The fault of a planner that has no client. -/
def noClient : Diagnostic := Diagnostic.modelUnavailable "no LLM credentials configured"

/-- The fault of a planner that has used up its attempts. -/
def exhausted (last : Option PlanIssue) : Diagnostic :=
  Diagnostic.planInvalid ((last.map PlanIssue.text).getD "planner produced no plan")

/-- One attempt. -/
def attempt (p : ModelPlanner m) (client : ChatClient m) (request : ChatRequest) :
    m (Except AttemptFault Plan) := do
  let start ← p.now
  let reply ← client.complete request
  let finish ← p.now
  p.record (CallMetrics.ofCall client.model start finish reply)
  return Reply.judge reply

/-- The attempts that a budget allows. -/
def attempts (p : ModelPlanner m) (client : ChatClient m) (request : ChatRequest)
    (budget : AttemptBudget) (last : Option PlanIssue) : m (Except Diagnostic Plan) :=
  match _h : budget.next? with
  | none => return .error (exhausted last)
  | some _ => do
    match ← p.attempt client request with
    | .ok plan => return .ok plan
    | .error (.unavailable cause) => return .error (Diagnostic.modelUnavailable cause.message)
    | .error (.invalid issue) =>
      p.attempts client request (budget.record .invalid) (some issue)
termination_by budget.remaining
decreasing_by exact AttemptBudget.remaining_record_invalid _h

/-- Plans for a model. -/
def plan (p : ModelPlanner m) (model : ApiModel) : m (Except Diagnostic Plan) :=
  match p.client with
  | none => return .error noClient
  | some client =>
    p.attempts client (ChatRequest.forModel model p.maxTokens)
      (AttemptBudget.ofLimit p.maxAttempts) none

/-- The planner. -/
def planner (p : ModelPlanner m) : Planner m := ⟨"llm", p.plan⟩

end ModelPlanner

end ApiScreens
