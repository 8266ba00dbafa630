/-!
# Attempt budgets

A planner may ask a fixed number of times, at least once. The first valid answer ends the attempts;
each invalid one uses up an attempt; what is recorded after the end changes nothing.
-/

namespace ApiScreens

/-- What has become of the attempts; a pending one has a number, counted from one. -/
inductive AttemptState where
  | ready (n : UInt32)
  | retry (n : UInt32)
  | succeeded
  | exhausted
deriving DecidableEq

namespace AttemptState

/-- The number of the pending attempt. -/
def pending? : AttemptState → Option UInt32
  | ready n | retry n => some n
  | succeeded | exhausted => none

/-- The name of a state. -/
def name : AttemptState → String
  | ready _ => "Ready"
  | retry _ => "Retry"
  | succeeded => "Succeeded"
  | exhausted => "Exhausted"

end AttemptState

/-- The outcome of an attempt. -/
inductive AttemptOutcome where
  | valid
  | invalid
deriving DecidableEq

/-- A limit on attempts, and how far they have come. -/
structure AttemptBudget where
  limit : UInt32
  state : AttemptState
deriving DecidableEq

namespace AttemptBudget

/-- The limit where none is stated. -/
def defaultLimit : UInt32 := 3

/-- A budget before its first attempt; there is always one. -/
def ofLimit (limit : UInt32) : AttemptBudget :=
  ⟨if limit = 0 then 1 else limit, .ready 1⟩

/-- The number of the next attempt. -/
def next? (b : AttemptBudget) : Option UInt32 := b.state.pending?

/-- The budget after the outcome of an attempt. -/
def record (b : AttemptBudget) (outcome : AttemptOutcome) : AttemptBudget :=
  match b.next?, outcome with
  | some _, .valid => { b with state := .succeeded }
  | some n, .invalid =>
    { b with state := if n < b.limit then .retry (n + 1) else .exhausted }
  | none, _ => b

/-- The budget after several outcomes. -/
def recordAll (b : AttemptBudget) (outcomes : List AttemptOutcome) : AttemptBudget :=
  outcomes.foldl record b

/-- How many attempts are left. -/
def remaining (b : AttemptBudget) : Nat :=
  match b.next? with
  | some n => b.limit.toNat - n.toNat + 1
  | none => 0

theorem ofLimit_limit_pos (limit : UInt32) : 0 < (ofLimit limit).limit.toNat := by
  unfold ofLimit
  split
  · decide
  · next h =>
    have : limit.toNat ≠ 0 := fun e => h (UInt32.toNat_inj.1 e)
    simp only
    omega

@[simp] theorem record_limit (b : AttemptBudget) (o : AttemptOutcome) :
    (b.record o).limit = b.limit := by
  unfold record
  split <;> rfl

end AttemptBudget

end ApiScreens
