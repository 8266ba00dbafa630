import ApiScreens.Json.Printer
import ApiScreens.Metrics.Call

/-!
# Metrics logs

A log takes metrics at any time without waiting, and a writer moves them from the queue to a file,
one line each. Closing the log ends the taking; the writer goes on until the queue is empty, and
shutting down waits for it. A log whose file cannot be opened loses what it takes.
-/

namespace ApiScreens

/-- The line of a log file for a call. -/
def CallMetrics.line (c : CallMetrics) : String := c.toJson.compact ++ "\n"

/-- A log with its queue and what its file holds, if that could be opened. -/
structure MetricsLog where
  accepting : Bool
  queue : List CallMetrics
  content : Option String
  finished : Bool
deriving DecidableEq

namespace MetricsLog

/-- What can happen to a log. -/
inductive Action where
  | record (event : CallMetrics)
  | close
  | write
  | finish
deriving DecidableEq

/-- A new log on a file with some content. -/
def onFile (content : String) : MetricsLog := ⟨true, [], some content, false⟩

/-- A new log whose file cannot be opened. -/
def unopened : MetricsLog := ⟨true, [], none, true⟩

/-- Takes metrics while the log is open and has a writer. -/
def record (log : MetricsLog) (event : CallMetrics) : MetricsLog :=
  if log.accepting && !log.finished then { log with queue := log.queue ++ [event] } else log

/-- Ends the taking. -/
def close (log : MetricsLog) : MetricsLog := { log with accepting := false }

/-- Moves the first of the queue to the file. -/
def write? (log : MetricsLog) : Option MetricsLog :=
  match log.queue, log.finished with
  | event :: rest, false =>
    some { log with queue := rest, content := log.content.map (· ++ event.line) }
  | _, _ => none

/-- Ends the writer once the log is closed and its queue is empty. -/
def finish? (log : MetricsLog) : Option MetricsLog :=
  if !log.accepting && log.queue.isEmpty then some { log with finished := true } else none

/-- The log after an action that is possible. -/
def step? (log : MetricsLog) : Action → Option MetricsLog
  | .record event => some (log.record event)
  | .close => some log.close
  | .write => log.write?
  | .finish => log.finish?

/-- The log after several actions that are possible one after another. -/
def replay? (log : MetricsLog) (actions : List Action) : Option MetricsLog :=
  actions.foldlM step? log

/-- The actions that shut a log down: closing, writing all that is queued, and finishing. -/
def shutdownActions (log : MetricsLog) : List Action :=
  .close :: List.replicate log.queue.length .write ++ [.finish]

/-- The log once it is shut down. -/
def shutdown (log : MetricsLog) : MetricsLog :=
  (log.replay? log.shutdownActions).getD log

/-- The lines of calls, one after another. -/
def lines (events : List CallMetrics) : String := String.join (events.map CallMetrics.line)

end MetricsLog

/-- Where metrics go: nowhere, into a list, or into a log. -/
inductive MetricsSink where
  | discarding
  | keeping (events : List CallMetrics)
  | logging (log : MetricsLog)

namespace MetricsSink

/-- Takes metrics. -/
def record : MetricsSink → CallMetrics → MetricsSink
  | discarding, _ => discarding
  | keeping events, event => keeping (events ++ [event])
  | logging log, event => logging (log.record event)

/-- Waits until all that was taken is where it goes. -/
def shutdown : MetricsSink → MetricsSink
  | logging log => logging log.shutdown
  | sink => sink

/-- The metrics that a sink holds. -/
def events : MetricsSink → List CallMetrics
  | keeping events => events
  | discarding | logging _ => []

end MetricsSink

end ApiScreens
