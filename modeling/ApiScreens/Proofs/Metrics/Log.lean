import ApiScreens.Metrics.Log

/-!
# What logs write

Every action on a log keeps what is written and what is queued together: the events that were taken,
in their order, one line for each. Shutting a log down writes all that is queued.
-/

namespace ApiScreens

namespace MetricsLog

variable {before : String} {kept : List CallMetrics} {log log' : MetricsLog}

theorem lines_append (events more : List CallMetrics) :
    lines (events ++ more) = lines events ++ lines more := by
  apply String.toList_injective
  simp [lines, String.toList_join]

/-- What is written and what is queued are together the events kept; when the writer has ended, the
log is closed and nothing is queued. -/
structure Delivers (before : String) (kept : List CallMetrics) (log : MetricsLog) : Prop where
  written : ∃ written, written ++ log.queue = kept ∧ log.content = some (before ++ lines written)
  finished : log.finished = true → log.accepting = false ∧ log.queue = []

theorem delivers_onFile (before : String) : (onFile before).Delivers before [] := by
  refine ⟨⟨[], rfl, ?_⟩, nofun⟩
  exact congrArg some String.append_empty.symm

theorem record_of_closed (h : log.accepting = false) (event : CallMetrics) :
    log.record event = log := by
  rw [record, h, Bool.false_and, if_neg Bool.false_ne_true]

@[simp] theorem accepting_record (log : MetricsLog) (event : CallMetrics) :
    (log.record event).accepting = log.accepting := by
  unfold record
  split <;> rfl

@[simp] theorem finished_record (log : MetricsLog) (event : CallMetrics) :
    (log.record event).finished = log.finished := by
  unfold record
  split <;> rfl

@[simp] theorem content_record (log : MetricsLog) (event : CallMetrics) :
    (log.record event).content = log.content := by
  unfold record
  split <;> rfl

theorem Delivers.record (h : log.Delivers before kept) (hopen : log.accepting = true)
    (event : CallMetrics) : (log.record event).Delivers before (kept ++ [event]) := by
  have hworking : log.finished = false := by
    rw [Bool.eq_false_iff]
    intro hfinished
    obtain ⟨hclosed, -⟩ := h.finished hfinished
    rw [hopen] at hclosed
    contradiction
  obtain ⟨written, rfl, hcontent⟩ := h.written
  have hqueue : (log.record event).queue = log.queue ++ [event] := by
    simp [MetricsLog.record, hopen, hworking]
  refine ⟨⟨written, ?_, ?_⟩, ?_⟩
  · rw [hqueue, List.append_assoc]
  · rw [content_record, hcontent]
  · rw [finished_record, hworking]
    nofun

theorem Delivers.close (h : log.Delivers before kept) : log.close.Delivers before kept :=
  ⟨h.written, fun hfinished => ⟨rfl, (h.finished hfinished).2⟩⟩

/-- What is written is the first of what is queued. -/
theorem write?_eq_some (h : log.write? = some log') : ∃ event rest, log.queue = event :: rest ∧
    log.finished = false ∧
    log' = { log with queue := rest, content := log.content.map (· ++ event.line) } := by
  unfold write? at h
  split at h
  · rename_i event rest hqueue hworking
    exact ⟨event, rest, hqueue, hworking, (Option.some.inj h).symm⟩
  · contradiction

theorem Delivers.write (h : log.Delivers before kept) (hwrite : log.write? = some log') :
    log'.Delivers before kept := by
  obtain ⟨event, rest, hqueue, hworking, rfl⟩ := write?_eq_some hwrite
  obtain ⟨written, rfl, hcontent⟩ := h.written
  refine ⟨⟨written ++ [event], ?_, ?_⟩, ?_⟩
  · rw [hqueue, List.append_assoc]
    rfl
  · have hline : lines [event] = event.line := by simp [lines]
    rw [hcontent, Option.map_some, lines_append, hline, String.append_assoc]
  · exact fun hfinished => absurd (hworking.symm.trans hfinished) Bool.false_ne_true

/-- The writer ends when the log is closed and nothing is queued. -/
theorem finish?_eq_some (h : log.finish? = some log') :
    log.accepting = false ∧ log.queue = [] ∧ log' = { log with finished := true } := by
  obtain ⟨hdone, hlog⟩ := Option.ite_none_right_eq_some.mp h
  obtain rfl := Option.some.inj hlog
  simp only [Bool.and_eq_true, Bool.not_eq_true', List.isEmpty_iff] at hdone
  exact ⟨hdone.1, hdone.2, rfl⟩

theorem Delivers.finish (h : log.Delivers before kept) (hfinish : log.finish? = some log') :
    log'.Delivers before kept := by
  obtain ⟨hclosed, hempty, rfl⟩ := finish?_eq_some hfinish
  exact ⟨h.written, fun _ => ⟨hclosed, hempty⟩⟩

section Shutdown

theorem replay?_writes (h : log.finished = false) :
    log.replay? (List.replicate log.queue.length .write) =
      some { log with queue := [], content := log.content.map (· ++ lines log.queue) } := by
  obtain ⟨accepting, queue, content, finished⟩ := log
  induction queue generalizing content with
  | nil => cases content <;> simp [replay?, lines]
  | cons event rest ih =>
      obtain rfl : finished = false := h
      have hwrite : step? ⟨accepting, event :: rest, content, false⟩ .write =
          some ⟨accepting, rest, content.map (· ++ event.line), false⟩ := rfl
      have hline : lines (event :: rest) = event.line ++ lines rest := by
        simp [lines]
      rw [List.length_cons, List.replicate_succ, replay?, List.foldlM_cons, hwrite]
      refine (ih _ rfl).trans ?_
      rw [hline]
      cases content <;> simp [String.append_assoc]

/-- Shutting a log down that has a writer leaves all that was queued in the file. -/
theorem shutdown_eq (h : log.finished = false) :
    log.shutdown = ⟨false, [], log.content.map (· ++ lines log.queue), true⟩ := by
  have hwrites : List.foldlM step? log.close (List.replicate log.queue.length .write) =
      some ⟨false, [], log.content.map (· ++ lines log.queue), log.finished⟩ :=
    @replay?_writes log.close h
  have hreplay : log.replay? log.shutdownActions =
      some ⟨false, [], log.content.map (· ++ lines log.queue), true⟩ := by
    have hclose : log.step? .close = some log.close := rfl
    rw [shutdownActions, List.cons_append, replay?, List.foldlM_cons, hclose, Option.bind_eq_bind,
      Option.bind_some, List.foldlM_append, hwrites]
    rfl
  rw [shutdown, hreplay, Option.getD_some]

theorem foldl_record (queue events : List CallMetrics) (content : Option String) :
    events.foldl record ⟨true, queue, content, false⟩ =
      ⟨true, queue ++ events, content, false⟩ := by
  induction events generalizing queue with
  | nil => rw [List.append_nil, List.foldl_nil]
  | cons event rest ih =>
      rw [List.append_cons]
      exact ih (queue ++ [event])

/-- The file of a log that is shut down holds the lines of what the log has taken. -/
theorem content_shutdown (before : String) (events : List CallMetrics) :
    (events.foldl record (onFile before)).shutdown.content = some (before ++ lines events) := by
  have htaken : events.foldl record (onFile before) = ⟨true, events, some before, false⟩ :=
    foldl_record [] events (some before)
  rw [htaken, shutdown_eq rfl]
  rfl

end Shutdown

end MetricsLog

end ApiScreens
