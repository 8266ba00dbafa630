import ApiScreens.Planner.Script
import ApiScreens.Proofs.Outcome
import ApiScreens.Proofs.Planner.Budget

/-!
# Repeated requests

A planner calls its language model until a reply gives a plan, a call fails, or its attempts are
used up. One attempt takes one reply off a script, so a run is followed reply by reply; the attempts
that are left count the calls.
-/

namespace ApiScreens

namespace Reply

variable {reply : Except ChatError ChatCompletion}

/-- The reply holds a value that is accepted as a plan. -/
def Gives (reply : Except ChatError ChatCompletion) (plan : Plan) : Prop :=
  ∃ completion payload, reply = .ok completion ∧ value? completion.content = some payload ∧
    Plan.ofJson payload = .ok plan

/-- The reply holds no value, or one that is not accepted. -/
def Refused (reply : Except ChatError ChatCompletion) (issue : PlanIssue) : Prop :=
  ∃ completion, reply = .ok completion ∧
    (value? completion.content = none ∧ issue = .noObject ∨
      ∃ payload, value? completion.content = some payload ∧ Plan.ofJson payload = .error issue)

theorem plan_of_eq_none {content : String} (h : value? content = none) :
    Reply.plan content = .error .noObject := by
  delta Reply.plan
  rw [h]

theorem plan_of_eq_some {content : String} {payload : Json} (h : value? content = some payload) :
    Reply.plan content = Plan.ofJson payload := by
  delta Reply.plan
  rw [h]

theorem gives_iff {plan : Plan} : Gives reply plan ↔ judge reply = .ok plan := by
  cases reply with
  | error cause => simp [Gives, judge]
  | ok completion =>
      cases hvalue : value? completion.content with
      | none => simp [Gives, judge, mapError_eq_ok, plan_of_eq_none hvalue, hvalue]
      | some payload => simp [Gives, judge, mapError_eq_ok, plan_of_eq_some hvalue, hvalue]

theorem refused_iff {issue : PlanIssue} :
    Refused reply issue ↔ judge reply = .error (.invalid issue) := by
  cases reply with
  | error cause => simp [Refused, judge]
  | ok completion =>
      cases hvalue : value? completion.content with
      | none =>
          simp [Refused, judge, mapError_eq_error, plan_of_eq_none hvalue, hvalue, eq_comm]
      | some payload =>
          simp [Refused, judge, mapError_eq_error, plan_of_eq_some hvalue, hvalue]

theorem eq_error_iff {cause : ChatError} :
    reply = .error cause ↔ judge reply = .error (.unavailable cause) := by
  cases reply with
  | error cause' => simp [judge]
  | ok completion => simp [judge, mapError_eq_error]

end Reply

namespace Script

/-- The reply that a call gets; calls are counted from zero. -/
def reply (s : Script) (call : Nat) : Except ChatError ChatCompletion :=
  s.replies[call]?.getD (.error ended)

/-- What the clock shows when it is read, readings being counted from zero. -/
def reading (s : Script) (n : Nat) : Timestamp := s.clock.plus (n * s.step)

/-- What is noted about a call. -/
def event (s : Script) (model : String) (call : Nat) : CallMetrics :=
  CallMetrics.ofCall model (s.reading (2 * call)) (s.reading (2 * call + 1)) (s.reply call)

/-- The script after so many calls with one request, each of them noted once. -/
def afterCalls (s : Script) (model : String) (request : ChatRequest) (calls : Nat) : Script :=
  { replies := s.replies.drop calls
    clock := s.reading (2 * calls)
    step := s.step
    requests := s.requests ++ List.replicate calls request
    events := s.events ++ (List.range calls).map (s.event model) }

variable (s : Script) (name : String) (request : ChatRequest)

theorem reply_afterCalls (k i : Nat) : (s.afterCalls name request k).reply i = s.reply (k + i) := by
  simp [reply, afterCalls]

theorem reading_afterCalls (k i : Nat) :
    (s.afterCalls name request k).reading i = s.reading (2 * k + i) := by
  simp only [reading, afterCalls, Timestamp.plus, Timestamp.mk.injEq]
  push_cast
  rw [Int.add_mul, Int.add_assoc]

theorem event_afterCalls (k i : Nat) :
    (s.afterCalls name request k).event name i = s.event name (k + i) := by
  simp only [event, reading_afterCalls, reply_afterCalls, Nat.mul_add, Nat.add_assoc]

theorem reading_zero : s.reading 0 = s.clock := by simp [reading, Timestamp.plus]

theorem reading_succ (n : Nat) : s.reading (n + 1) = (s.reading n).plus s.step := by
  simp only [reading, Timestamp.plus, Timestamp.mk.injEq]
  push_cast
  rw [Int.add_mul, Int.one_mul, Int.add_assoc]

theorem reply_zero : s.reply 0 = s.replies.headD (.error ended) := by
  unfold reply
  cases s.replies <;> rfl

theorem afterCalls_afterCalls (k n : Nat) :
    (s.afterCalls name request k).afterCalls name request n =
      s.afterCalls name request (k + n) := by
  have hevents : (s.afterCalls name request k).event name = fun i => s.event name (k + i) :=
    funext (event_afterCalls s name request k)
  have hclock := reading_afterCalls s name request k (2 * n)
  simp only [afterCalls, Script.mk.injEq] at hevents hclock ⊢
  refine ⟨?_, ?_, trivial, ?_, ?_⟩
  · rw [List.drop_drop]
  · rw [hclock, Nat.mul_add]
  · rw [List.append_assoc, List.replicate_append_replicate]
  · rw [hevents, List.append_assoc, List.range_add, List.map_append, List.map_map]
    rfl

end Script

namespace ModelPlanner

variable {name : String} {maxAttempts maxTokens : UInt32} {request : ChatRequest} {s : Script}

/-- An attempt is one call, and the plan or fault is what its reply comes to. -/
theorem attempt_run : ((Script.planner (some name) maxAttempts maxTokens).attempt
    (Script.client name) request).run s =
      (Reply.judge (s.reply 0), s.afterCalls name request 1) := by
  rw [Script.reply_zero]
  simp only [Script.afterCalls, Script.event, Script.reply_zero, Nat.mul_zero, Nat.mul_one,
    Script.reading_succ, Script.reading_zero, List.range_one, List.map_singleton]
  rw [List.drop_one]
  rfl

/-- What a planner with so many attempts answers to the replies of a script, after how many calls,
and how the last of them ended. -/
inductive Outcome (s : Script) (limit : Nat) : Except Diagnostic Plan → Nat → CallStatus → Prop
  | accepted {call : Nat} {plan : Plan} (within : call < limit)
      (before : ∀ i < call, ∃ issue, Reply.Refused (s.reply i) issue)
      (here : Reply.Gives (s.reply call) plan) :
      Outcome s limit (.ok plan) (call + 1) .success
  | failed {call : Nat} {cause : ChatError} (within : call < limit)
      (before : ∀ i < call, ∃ issue, Reply.Refused (s.reply i) issue)
      (here : s.reply call = .error cause) :
      Outcome s limit (.error (Diagnostic.modelUnavailable cause.message)) (call + 1) .error
  | exhausted {issue : PlanIssue}
      (all : ∀ i < limit, ∃ issue, Reply.Refused (s.reply i) issue)
      (final : Reply.Refused (s.reply (limit - 1)) issue) :
      Outcome s limit (.error (Diagnostic.planInvalid issue.text)) limit .invalid

section Outcomes

variable {limit calls : Nat} {result : Except Diagnostic Plan} {last : CallStatus}
  {issue : PlanIssue}

theorem forall_refused_succ (hfirst : Reply.Refused (s.reply 0) issue) {n : Nat}
    (h : ∀ i < n, ∃ issue, Reply.Refused ((s.afterCalls name request 1).reply i) issue) :
    ∀ i < n + 1, ∃ issue, Reply.Refused (s.reply i) issue := by
  intro i hi
  cases i with
  | zero => exact ⟨issue, hfirst⟩
  | succ i =>
      rw [Nat.add_comm i 1, ← Script.reply_afterCalls s name request]
      exact h i (Nat.lt_of_succ_lt_succ hi)

/-- What is answered after a reply that is refused is answered by one attempt more before it. -/
theorem Outcome.after_refused (hfirst : Reply.Refused (s.reply 0) issue) (hlimit : 0 < limit)
    (h : Outcome (s.afterCalls name request 1) limit result calls last) :
    Outcome s (limit + 1) result (calls + 1) last := by
  have hreply := Script.reply_afterCalls s name request 1
  cases h with
  | @accepted call _ within before here =>
      rw [hreply, Nat.add_comm] at here
      exact .accepted (Nat.succ_lt_succ within) (forall_refused_succ hfirst before) here
  | @failed call _ within before here =>
      rw [hreply, Nat.add_comm] at here
      exact .failed (Nat.succ_lt_succ within) (forall_refused_succ hfirst before) here
  | exhausted all final =>
      rw [hreply, Nat.add_sub_cancel' hlimit] at final
      exact .exhausted (forall_refused_succ hfirst all) final

end Outcomes

section Attempts

variable {budget : AttemptBudget} {issue? : Option PlanIssue}

/-- The attempts that a budget allows, on a script. -/
abbrev scriptedAttempts (name : String) (maxAttempts maxTokens : UInt32) (request : ChatRequest)
    (budget : AttemptBudget) (issue? : Option PlanIssue) :
    StateM Script (Except Diagnostic Plan) :=
  (Script.planner (some name) maxAttempts maxTokens).attempts (Script.client name) request budget
    issue?

theorem attempts_of_remaining_zero (h : budget.remaining = 0) :
    (scriptedAttempts name maxAttempts maxTokens request budget issue?).run s =
      (.error (exhausted issue?), s) := by
  rw [scriptedAttempts, attempts]
  split
  · rfl
  · rename_i n hn
    rw [AttemptBudget.next?_eq_none_iff.mpr h] at hn
    contradiction

/-- While an attempt is left, the first reply ends the run, or it is refused and the run goes on
with one attempt less. -/
theorem attempts_of_remaining_pos (name : String) (maxAttempts maxTokens : UInt32)
    (request : ChatRequest) (issue? : Option PlanIssue) (s : Script) (h : 0 < budget.remaining) :
    (∃ result status, (scriptedAttempts name maxAttempts maxTokens request budget issue?).run s =
        (result, s.afterCalls name request 1) ∧
        ∀ limit, 0 < limit → Outcome s limit result 1 status) ∨
      ∃ issue, Reply.Refused (s.reply 0) issue ∧
        (scriptedAttempts name maxAttempts maxTokens request budget issue?).run s =
          (scriptedAttempts name maxAttempts maxTokens request (budget.record .invalid)
            (some issue)).run (s.afterCalls name request 1) := by
  rw [scriptedAttempts, attempts]
  split
  · rename_i hn
    rw [AttemptBudget.next?_eq_none_iff.mp hn] at h
    contradiction
  · have hbefore : ∀ i < 0, ∃ issue, Reply.Refused (s.reply i) issue :=
      fun i hi => absurd hi (Nat.not_lt_zero i)
    rw [StateT.run_bind, attempt_run]
    cases hjudge : Reply.judge (s.reply 0) with
    | ok plan =>
        exact Or.inl ⟨.ok plan, .success, rfl, fun limit hlimit =>
          .accepted hlimit hbefore (Reply.gives_iff.mpr hjudge)⟩
    | error fault =>
        cases fault with
        | unavailable cause =>
            exact Or.inl ⟨_, .error, rfl, fun limit hlimit =>
              .failed hlimit hbefore (Reply.eq_error_iff.mpr hjudge)⟩
        | invalid issue => exact Or.inr ⟨issue, Reply.refused_iff.mpr hjudge, rfl⟩

/-- The attempts that a budget allows, if there is one, come to an outcome. -/
theorem attempts_run (name : String) (maxAttempts maxTokens : UInt32) (request : ChatRequest)
    (issue? : Option PlanIssue) (s : Script) {left : Nat} (h : budget.remaining = left + 1) :
    ∃ result calls status,
      (scriptedAttempts name maxAttempts maxTokens request budget issue?).run s =
        (result, s.afterCalls name request calls) ∧ Outcome s (left + 1) result calls status := by
  have hpos : 0 < budget.remaining := h ▸ Nat.succ_pos left
  -- The budget decides how often the run goes on, so the induction is on the attempts that are left,
  -- for whatever script the replies before have left.
  induction left generalizing budget issue? s with
  | zero =>
      rcases attempts_of_remaining_pos name maxAttempts maxTokens request issue? s hpos with
        ⟨result, status, hrun, houtcome⟩ | ⟨issue, hrefused, hrun⟩
      · exact ⟨result, 1, status, hrun, houtcome 1 Nat.one_pos⟩
      · have hnone : (budget.record .invalid).remaining = 0 := by
          rw [AttemptBudget.remaining_record_invalid_eq, h]
        rw [attempts_of_remaining_zero hnone] at hrun
        refine ⟨_, 1, .invalid, hrun, .exhausted (fun i hi => ?_) hrefused⟩
        obtain rfl := Nat.lt_one_iff.mp hi
        exact ⟨issue, hrefused⟩
  | succ left ih =>
      rcases attempts_of_remaining_pos name maxAttempts maxTokens request issue? s hpos with
        ⟨result, status, hrun, houtcome⟩ | ⟨issue, hrefused, hrun⟩
      · exact ⟨result, 1, status, hrun, houtcome _ (Nat.succ_pos _)⟩
      · have hleft : (budget.record .invalid).remaining = left + 1 := by
          rw [AttemptBudget.remaining_record_invalid_eq, h, Nat.add_sub_cancel]
        obtain ⟨result, calls, status, hrest, houtcome⟩ :=
          ih (some issue) (s.afterCalls name request 1) hleft (hleft ▸ Nat.succ_pos left)
        rw [hrest, Script.afterCalls_afterCalls, Nat.add_comm 1] at hrun
        exact ⟨result, calls + 1, status, hrun, houtcome.after_refused hrefused (Nat.succ_pos left)⟩

end Attempts

end ModelPlanner

end ApiScreens
