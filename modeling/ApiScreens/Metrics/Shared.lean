import ApiScreens.Metrics.Log

/-!
# Logs in use by many

Metrics are recorded and the log is shut down by many at once while the writer works. Taking an
event and closing the log hold the same lock, and so each of them is one step. A call that shuts the
log down closes it, then takes the handle of the writer if that is still there, waits for the writer
if it has the handle, and returns. What the writer hands over reaches the file bit by bit, and all
of it before the writer ends.
-/

namespace ApiScreens

/-- How far a call to shut a log down is: the log is closed; the call waits for the writer; it goes
on without, since it found no handle; or it has returned, having waited or not. -/
inductive ShutdownCall where
  | closed
  | waiting
  | passing
  | returned (waited : Bool)
deriving DecidableEq

/-- A log in use: how many characters of its content have reached the file, whether the handle of
the writer is there, and the calls to shut the log down, in the order in which they began. -/
structure SharedLog where
  log : MetricsLog
  stored : Nat
  handle : Bool
  calls : List ShutdownCall
deriving DecidableEq

namespace SharedLog

/-- What can happen to a log in use. A call to shut it down begins with `close`. -/
inductive Action where
  | record (event : CallMetrics)
  | close
  | take (call : Nat)
  | leave (call : Nat)
  | write
  | store
  | finish
deriving DecidableEq

/-- A new log on a file with some content. -/
def onFile (content : String) : SharedLog :=
  ⟨MetricsLog.onFile content, content.toList.length, true, []⟩

/-- The characters that the writer has handed over, after those that were there before. -/
def handed (s : SharedLog) : List Char := (s.log.content.getD "").toList

/-- What the file holds. -/
def file (s : SharedLog) : String := String.ofList (s.handed.take s.stored)

/-- A call takes the handle of the writer if it is still there. -/
def take? (s : SharedLog) (call : Nat) : Option SharedLog :=
  match s.calls[call]? with
  | some .closed =>
    some { s with
      handle := false
      calls := s.calls.set call (if s.handle then .waiting else .passing) }
  | _ => none

/-- A call returns, at the end of the writer if it waits for it. -/
def leave? (s : SharedLog) (call : Nat) : Option SharedLog :=
  match s.calls[call]? with
  | some .waiting =>
    if s.log.finished then some { s with calls := s.calls.set call (.returned true) } else none
  | some .passing => some { s with calls := s.calls.set call (.returned false) }
  | _ => none

/-- The log after an action that is possible. The writer ends when all has reached the file. -/
def step? (s : SharedLog) : Action → Option SharedLog
  | .record event => some { s with log := s.log.record event }
  | .close => some { s with log := s.log.close, calls := s.calls ++ [.closed] }
  | .take call => s.take? call
  | .leave call => s.leave? call
  | .write => s.log.write?.map fun log => { s with log := log }
  | .store => if s.stored < s.handed.length then some { s with stored := s.stored + 1 } else none
  | .finish => s.log.finish?.map fun log => { s with log := log, stored := s.handed.length }

/-- The log after several actions that are possible one after another. -/
def replay? (s : SharedLog) (actions : List Action) : Option SharedLog :=
  actions.foldlM step? s

/-- The events that are recorded before the log is closed for the first time. -/
def kept : List Action → List CallMetrics
  | [] => []
  | .record event :: rest => event :: kept rest
  | .close :: _ => []
  | _ :: rest => kept rest

end SharedLog

end ApiScreens
