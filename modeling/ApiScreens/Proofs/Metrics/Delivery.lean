import ApiScreens.Metrics.Shared
import ApiScreens.Proofs.Metrics.Lines
import ApiScreens.Proofs.Metrics.Log
import Mathlib.Algebra.BigOperators.Group.List.Basic
import Mathlib.Tactic.Push

/-!
# Logs in use deliver what they take

However recording, writing and shutting down take turns, what a log has written and what is queued
are together the events recorded before it was closed, in their order. The writer ends only when all
of them are in the file, and so a call that waited for it leaves the file complete. A call that
finds no handle returns at once, and events are missing then as long as the call that has the handle
waits. No call is ever stuck, and the file is complete once all have returned.
-/

namespace ApiScreens

/-- Whether a call has the handle of the writer. -/
def ShutdownCall.hasHandle : ShutdownCall → Bool
  | waiting | returned true => true
  | closed | passing | returned false => false

/-- Whether a call has found no handle. -/
def ShutdownCall.foundNone : ShutdownCall → Bool
  | passing | returned false => true
  | closed | waiting | returned true => false

/-- The steps that a call has to take until it has returned. -/
def ShutdownCall.ahead : ShutdownCall → Nat
  | closed => 2
  | waiting | passing => 1
  | returned _ => 0

namespace SharedLog

section Calls

variable {s s' : SharedLog} {call : Nat} {c : ShutdownCall}

theorem getElem?_set_call (h : s.calls[call]? = some c) (c' : ShutdownCall) (i : Nat) :
    (s.calls.set call c')[i]? = if i = call then some c' else s.calls[i]? := by
  have hlt : call < s.calls.length := (List.getElem?_eq_some_iff.mp h).1
  simp [List.getElem?_set, hlt, eq_comm (a := call)]

/-- What the calls have found: the log is closed, and one of them has the handle of the writer once
it is gone, which it is if another one found none. None that waited has returned before the end of
the writer. -/
structure CallsHold (s : SharedLog) : Prop where
  closed : s.calls ≠ [] → s.log.accepting = false
  handle : s.handle = false → ∃ (i : Nat) (c : ShutdownCall), s.calls[i]? = some c ∧ c.hasHandle
  none : ∀ (i : Nat) (c : ShutdownCall), s.calls[i]? = some c → c.foundNone → s.handle = false
  returned : ∀ i : Nat, s.calls[i]? = some (.returned true) → s.log.finished = true

theorem take?_eq_some (h : s.take? call = some s') : s.calls[call]? = some .closed ∧
    s' = { s with
      handle := false
      calls := s.calls.set call (if s.handle then .waiting else .passing) } := by
  unfold take? at h
  split at h
  · rename_i hcall
    exact ⟨hcall, (Option.some.inj h).symm⟩
  · contradiction

theorem CallsHold.take (h : s.CallsHold) (htake : s.take? call = some s') : s'.CallsHold := by
  obtain ⟨hcall, rfl⟩ := take?_eq_some htake
  refine ⟨?closed, ?handle, fun _ _ _ _ => rfl, ?returned⟩
  case closed => exact fun _ => h.closed (List.ne_nil_of_mem (List.mem_of_getElem? hcall))
  case handle =>
    intro _
    cases hhandle : s.handle with
    | true =>
        refine ⟨call, .waiting, ?_, rfl⟩
        simp [getElem?_set_call hcall]
    | false =>
        obtain ⟨i, c, hi, hc⟩ := h.handle hhandle
        refine ⟨i, c, ?_, hc⟩
        have hne : i ≠ call := by
          rintro rfl
          obtain rfl := Option.some.inj (hcall.symm.trans hi)
          contradiction
        rwa [getElem?_set_call hcall, if_neg hne]
  case returned =>
    intro i hi
    rw [getElem?_set_call hcall] at hi
    split at hi
    · cases hhandle : s.handle <;> simp [hhandle] at hi
    · exact h.returned i hi

/-- A call that waits returns after the end of the writer, and one that does not wait at once. -/
theorem leave?_eq_some (h : s.leave? call = some s') :
    (s.calls[call]? = some .waiting ∧ s.log.finished = true ∧
      s' = { s with calls := s.calls.set call (.returned true) }) ∨
    (s.calls[call]? = some .passing ∧
      s' = { s with calls := s.calls.set call (.returned false) }) := by
  unfold leave? at h
  split at h
  · rename_i hcall
    obtain ⟨hfinished, hs⟩ := Option.ite_none_right_eq_some.mp h
    exact Or.inl ⟨hcall, hfinished, (Option.some.inj hs).symm⟩
  · rename_i hcall
    exact Or.inr ⟨hcall, (Option.some.inj h).symm⟩
  · contradiction

/-- A call that goes on keeps the handle that it has, and has found none if it had not before. -/
theorem CallsHold.set (h : s.CallsHold) (hcall : s.calls[call]? = some c) {c' : ShutdownCall}
    (hhandle : c'.hasHandle = c.hasHandle) (hnone : c'.foundNone = c.foundNone)
    (hreturned : c' = .returned true → s.log.finished = true) :
    CallsHold { s with calls := s.calls.set call c' } := by
  refine ⟨?closed, ?handle, ?none, ?returned⟩
  case closed => exact fun _ => h.closed (List.ne_nil_of_mem (List.mem_of_getElem? hcall))
  case handle =>
    intro hgone
    obtain ⟨i, d, hi, hd⟩ := h.handle hgone
    by_cases hsame : i = call
    · subst hsame
      obtain rfl := Option.some.inj (hcall.symm.trans hi)
      exact ⟨i, c', by simp [getElem?_set_call hcall], hhandle.trans hd⟩
    · exact ⟨i, d, by rwa [getElem?_set_call hcall, if_neg hsame], hd⟩
  case none =>
    intro i d hi hd
    rw [getElem?_set_call hcall] at hi
    split at hi
    · obtain rfl := Option.some.inj hi
      exact h.none call c hcall (hnone.symm.trans hd)
    · exact h.none i d hi hd
  case returned =>
    intro i hi
    rw [getElem?_set_call hcall] at hi
    split at hi
    · exact hreturned (Option.some.inj hi)
    · exact h.returned i hi

theorem CallsHold.leave (h : s.CallsHold) (hleave : s.leave? call = some s') : s'.CallsHold := by
  rcases leave?_eq_some hleave with ⟨hcall, hfinished, rfl⟩ | ⟨hcall, rfl⟩
  · exact h.set hcall rfl rfl fun _ => hfinished
  · exact h.set hcall rfl rfl nofun

theorem CallsHold.close (h : s.CallsHold) :
    CallsHold { s with log := s.log.close, calls := s.calls ++ [.closed] } := by
  have hcalls {i : Nat} {c : ShutdownCall} (hne : c ≠ .closed) :
      (s.calls ++ [.closed])[i]? = some c ↔ s.calls[i]? = some c := by
    by_cases hi : i < s.calls.length
    · rw [List.getElem?_append_left hi]
    · have hle : s.calls.length ≤ i := Nat.le_of_not_lt hi
      rw [List.getElem?_append_right hle, List.getElem?_eq_none hle]
      refine iff_of_false (fun hc => hne ?_) nofun
      exact List.mem_singleton.mp (List.mem_of_getElem? hc)
  refine ⟨fun _ => rfl, ?handle, ?none, ?returned⟩
  case handle =>
    intro hgone
    obtain ⟨i, c, hi, hc⟩ := h.handle hgone
    exact ⟨i, c, (hcalls (by rintro rfl; contradiction)).mpr hi, hc⟩
  case none =>
    intro i c hi hc
    exact h.none i c ((hcalls (by rintro rfl; contradiction)).mp hi) hc
  case returned =>
    intro i hi
    exact h.returned i ((hcalls (c := .returned true) nofun).mp hi)

/-- What the calls have found still holds when the log goes on without being opened again. -/
theorem CallsHold.log (h : s.CallsHold) {log : MetricsLog} {stored : Nat}
    (hclosed : s.log.accepting = false → log.accepting = false)
    (hfinished : s.log.finished = true → log.finished = true) :
    CallsHold { s with log := log, stored := stored } :=
  ⟨fun hcalls => hclosed (h.closed hcalls), h.handle, h.none,
    fun i hi => hfinished (h.returned i hi)⟩

/-- When a call returns, the writer has ended or another call waits for that. -/
theorem CallsHold.finished_or_waiting (h : s.CallsHold) {waited : Bool}
    (hcall : s.calls[call]? = some (.returned waited)) :
    s.log.finished = true ∨ waited = false ∧ ∃ other : Nat, s.calls[other]? = some .waiting := by
  cases waited with
  | true => exact Or.inl (h.returned call hcall)
  | false =>
      obtain ⟨other, c, hother, hc⟩ := h.handle (h.none call _ hcall rfl)
      cases c with
      | waiting => exact Or.inr ⟨rfl, other, hother⟩
      | returned waited =>
          cases waited with
          | true => exact Or.inl (h.returned other hother)
          | false => contradiction
      | _ => contradiction

/-- Once all calls have returned, the writer has ended. -/
theorem CallsHold.finished (h : s.CallsHold) (hcalls : s.calls ≠ [])
    (hall : ∀ c ∈ s.calls, ∃ waited, c = .returned waited) : s.log.finished = true := by
  obtain ⟨c, hc⟩ := List.exists_mem_of_ne_nil _ hcalls
  obtain ⟨waited, rfl⟩ := hall c hc
  obtain ⟨call, hcall⟩ := List.getElem?_of_mem hc
  rcases h.finished_or_waiting hcall with hfinished | ⟨-, other, hother⟩
  · exact hfinished
  · obtain ⟨_, hwaiting⟩ := hall _ (List.mem_of_getElem? hother)
    contradiction

end Calls

section Runs

variable {before : String} {actions : List Action} {a : Action} {s s' : SharedLog}

theorem kept_concat (actions : List Action) (a : Action) :
    kept (actions ++ [a]) = if .close ∈ actions then kept actions else kept actions ++ kept [a] := by
  induction actions with
  | nil => rfl
  | cons b rest ih =>
      cases b with
      | record event => by_cases hclose : Action.close ∈ rest <;> simp [kept, ih, hclose]
      | _ => simp [kept, ih]

/-- What holds of a log in use after some actions. -/
structure Invariant (before : String) (actions : List Action) (s : SharedLog) : Prop where
  accepting : s.log.accepting = true ↔ .close ∉ actions
  delivers : s.log.Delivers before (kept actions)
  stored : s.stored ≤ s.handed.length
  flushed : s.log.finished = true → s.stored = s.handed.length
  calls : s.CallsHold

theorem invariant_onFile (before : String) : Invariant before [] (onFile before) where
  accepting := iff_of_true rfl nofun
  delivers := MetricsLog.delivers_onFile before
  stored := Nat.le_refl _
  flushed := nofun
  calls := ⟨nofun, nofun, nofun, nofun⟩

/-- An action that neither records nor closes keeps the events kept. -/
theorem kept_of_other (hrecord : kept [a] = []) : kept (actions ++ [a]) = kept actions := by
  rw [kept_concat, hrecord, List.append_nil, ite_self]

theorem Invariant.record (h : Invariant before actions s) (event : CallMetrics) :
    Invariant before (actions ++ [.record event]) { s with log := s.log.record event } := by
  refine ⟨?accepting, ?delivers, ?stored, ?flushed, h.calls.log (by simp) (by simp)⟩
  case accepting => simpa using h.accepting
  case delivers =>
    rw [kept_concat]
    split
    · rename_i hclose
      have hclosed : s.log.accepting = false := by simpa [hclose] using h.accepting
      rw [MetricsLog.record_of_closed hclosed]
      exact h.delivers
    · rename_i hopen
      exact h.delivers.record (h.accepting.mpr hopen) event
  case stored => simpa [handed] using h.stored
  case flushed => simpa [handed] using h.flushed

theorem Invariant.close (h : Invariant before actions s) : Invariant before (actions ++ [.close])
    { s with log := s.log.close, calls := s.calls ++ [.closed] } where
  accepting := by simp [MetricsLog.close]
  delivers := by
    rw [kept_of_other rfl]
    exact h.delivers.close
  stored := h.stored
  flushed := h.flushed
  calls := h.calls.close

/-- A step of a call changes nothing but the calls and who has the handle. -/
theorem Invariant.call (h : Invariant before actions s) {handle : Bool} {calls : List ShutdownCall}
    (hcalls : CallsHold { s with handle := handle, calls := calls }) (hkept : kept [a] = [])
    (ha : a ≠ .close) :
    Invariant before (actions ++ [a]) { s with handle := handle, calls := calls } where
  accepting := by simpa [ha.symm] using h.accepting
  delivers := by
    rw [kept_of_other hkept]
    exact h.delivers
  stored := h.stored
  flushed := h.flushed
  calls := hcalls

theorem Invariant.write (h : Invariant before actions s) {log : MetricsLog}
    (hwrite : s.log.write? = some log) :
    Invariant before (actions ++ [.write]) { s with log := log } := by
  have hdelivers := h.delivers.write hwrite
  obtain ⟨event, rest, -, hworking, rfl⟩ := MetricsLog.write?_eq_some hwrite
  obtain ⟨written, -, hcontent⟩ := h.delivers.written
  refine ⟨?accepting, ?delivers, ?stored, ?flushed, h.calls.log id id⟩
  case accepting => simpa using h.accepting
  case delivers =>
    rw [kept_of_other rfl]
    exact hdelivers
  case stored =>
    refine Nat.le_trans h.stored ?_
    simp [handed, hcontent]
  case flushed =>
    intro hfinished
    rw [hworking] at hfinished
    contradiction

theorem Invariant.store (h : Invariant before actions s) (hlt : s.stored < s.handed.length) :
    Invariant before (actions ++ [.store]) { s with stored := s.stored + 1 } where
  accepting := by simpa using h.accepting
  delivers := by
    rw [kept_of_other rfl]
    exact h.delivers
  stored := hlt
  flushed hfinished := absurd (h.flushed hfinished) (Nat.ne_of_lt hlt)
  calls := h.calls.log id id

theorem Invariant.finish (h : Invariant before actions s) {log : MetricsLog}
    (hfinish : s.log.finish? = some log) :
    Invariant before (actions ++ [.finish]) { s with log := log, stored := s.handed.length } := by
  have hdelivers := h.delivers.finish hfinish
  obtain ⟨hclosed, -, rfl⟩ := MetricsLog.finish?_eq_some hfinish
  refine ⟨?accepting, ?delivers, Nat.le_refl _, fun _ => rfl, h.calls.log id fun _ => rfl⟩
  case accepting => simpa using h.accepting
  case delivers =>
    rw [kept_of_other rfl]
    exact hdelivers

/-- Every action keeps the invariant. -/
theorem Invariant.step (h : Invariant before actions s) (hstep : s.step? a = some s') :
    Invariant before (actions ++ [a]) s' := by
  cases a with
  | record event =>
      obtain rfl := Option.some.inj hstep
      exact h.record event
  | close =>
      obtain rfl := Option.some.inj hstep
      exact h.close
  | take call =>
      have hcalls := h.calls.take hstep
      obtain ⟨-, rfl⟩ := take?_eq_some hstep
      exact h.call hcalls rfl nofun
  | leave call =>
      have hcalls := h.calls.leave hstep
      rcases leave?_eq_some hstep with ⟨-, -, rfl⟩ | ⟨-, rfl⟩
      · exact h.call hcalls rfl nofun
      · exact h.call hcalls rfl nofun
  | write =>
      obtain ⟨log, hlog, rfl⟩ := Option.map_eq_some_iff.mp hstep
      exact h.write hlog
  | store =>
      obtain ⟨hlt, hs⟩ := Option.ite_none_right_eq_some.mp hstep
      obtain rfl := Option.some.inj hs
      exact h.store hlt
  | finish =>
      obtain ⟨log, hlog, rfl⟩ := Option.map_eq_some_iff.mp hstep
      exact h.finish hlog

/-- The invariant holds after every run of a new log. -/
theorem invariant_of_replay? (h : (onFile before).replay? actions = some s) :
    Invariant before actions s := by
  have hrun (done : List Action) {more : List Action} {t : SharedLog}
      (ht : Invariant before done t) (h : t.replay? more = some s) :
      Invariant before (done ++ more) s := by
    induction more generalizing done t with
    | nil =>
        obtain rfl := Option.some.inj h
        rwa [List.append_nil]
    | cons a rest ih =>
        obtain ⟨next, hnext, hrest⟩ := Option.bind_eq_some_iff.mp h
        rw [List.append_cons]
        exact ih (done ++ [a]) (ht.step hnext) hrest
  exact hrun [] (invariant_onFile before) h

/-- The events kept are settled once the log is closed. -/
theorem kept_append (hclose : .close ∈ actions) (more : List Action) :
    kept (actions ++ more) = kept actions := by
  induction more using List.reverseRecOn with
  | nil => rw [List.append_nil]
  | append_singleton more a ih =>
      have hmem : .close ∈ actions ++ more := List.mem_append_left _ hclose
      rw [← List.append_assoc, kept_concat, if_pos hmem, ih]

/-- What the writer was handed and what is queued are together the lines of the events kept. -/
theorem Invariant.lines_kept (h : Invariant before actions s) :
    (before ++ MetricsLog.lines (kept actions)).toList =
      s.handed ++ (MetricsLog.lines s.log.queue).toList := by
  obtain ⟨written, hkept, hcontent⟩ := h.delivers.written
  rw [handed, hcontent, Option.getD_some, ← hkept, MetricsLog.lines_append]
  simp

/-- The file holds no more than the lines of the events kept. -/
theorem Invariant.file_prefix (h : Invariant before actions s) :
    s.file.toList <+: (before ++ MetricsLog.lines (kept actions)).toList := by
  rw [file, String.toList_ofList, h.lines_kept]
  exact (List.take_prefix _ _).trans (List.prefix_append _ _)

/-- The file holds all of them exactly if nothing is queued and all that was handed over is
stored. -/
theorem Invariant.file_eq_iff (h : Invariant before actions s) :
    s.file = before ++ MetricsLog.lines (kept actions) ↔
      s.log.queue = [] ∧ s.stored = s.handed.length := by
  rw [← String.toList_inj, h.lines_kept, file, String.toList_ofList]
  constructor
  · intro hfile
    have hlength := congrArg List.length hfile
    rw [List.length_take, List.length_append, Nat.min_eq_left h.stored] at hlength
    have hstored := h.stored
    have hempty : MetricsLog.lines s.log.queue = "" := by
      apply String.toList_eq_nil_iff.mp
      apply List.length_eq_zero_iff.mp
      omega
    exact ⟨MetricsLog.lines_eq_empty_iff.mp hempty, by omega⟩
  · rintro ⟨hqueue, hstored⟩
    rw [hqueue, hstored, List.take_length]
    exact (List.append_nil _).symm

theorem Invariant.file_eq (h : Invariant before actions s) (hfinished : s.log.finished = true) :
    s.file = before ++ MetricsLog.lines (kept actions) :=
  h.file_eq_iff.mpr ⟨(h.delivers.finished hfinished).2, h.flushed hfinished⟩

/-- A run of a new log goes on from the state that it has come to. -/
theorem replay?_append (h : (onFile before).replay? actions = some s) (more : List Action) :
    (onFile before).replay? (actions ++ more) = s.replay? more := by
  have hrun : actions.foldlM step? (onFile before) = some s := h
  rw [replay?, List.foldlM_append, hrun]
  rfl

/-- Later actions keep the events kept, once the log is closed. -/
theorem invariant_of_later {more : List Action} {t : SharedLog}
    (h : (onFile before).replay? actions = some s) (hclose : .close ∈ actions)
    (hmore : s.replay? more = some t) :
    Invariant before (actions ++ more) t ∧ kept (actions ++ more) = kept actions :=
  ⟨invariant_of_replay? ((replay?_append h more).trans hmore), kept_append hclose more⟩

end Runs

section Progress

variable {before : String} {actions : List Action} {s s' : SharedLog} {call : Nat}
  {c : ShutdownCall}

/-- Whether the action is one of those that must be taken until the calls have returned. -/
def Action.proceeds : Action → Bool
  | .take _ | .leave _ | .write | .finish => true
  | .record _ | .close | .store => false

/-- The actions that must be taken until the calls have returned. -/
def ahead (s : SharedLog) : Nat :=
  s.log.queue.length + (if s.log.finished then 0 else 1) + (s.calls.map ShutdownCall.ahead).sum

theorem sum_ahead_set_lt (h : s.calls[call]? = some c) {c' : ShutdownCall}
    (hlt : c'.ahead < c.ahead) :
    ((s.calls.set call c').map ShutdownCall.ahead).sum < (s.calls.map ShutdownCall.ahead).sum := by
  obtain ⟨hcall, rfl⟩ := List.getElem?_eq_some_iff.mp h
  obtain ⟨front, back, hcalls, -, hset⟩ := @List.exists_of_set _ _ c' _ hcall
  rw [hset]
  conv_rhs => rw [hcalls]
  simpa using hlt

/-- As long as a call has not returned, some action brings the log nearer to that. -/
theorem Invariant.exists_step (h : Invariant before actions s) (hcall : s.calls[call]? = some c)
    (hc : ∀ waited, c ≠ .returned waited) : ∃ a s', a.proceeds = true ∧ s.step? a = some s' ∧
      s'.ahead < s.ahead ∧ s'.calls.length = s.calls.length := by
  have hclosed : s.log.accepting = false :=
    h.calls.closed (List.ne_nil_of_mem (List.mem_of_getElem? hcall))
  -- A call only moves on by itself, so the others are no nearer to their return.
  have hset {log : MetricsLog} {handle : Bool} {c' : ShutdownCall} (hlog : log = s.log)
      (hlt : c'.ahead < c.ahead) :
      ahead ⟨log, s.stored, handle, s.calls.set call c'⟩ < s.ahead := by
    subst hlog
    exact Nat.add_lt_add_left (sum_ahead_set_lt hcall hlt) _
  cases hfinished : s.log.finished with
  | false =>
      cases hqueue : s.log.queue with
      | nil =>
          have hstep : s.step? .finish = some { s with
              log := { s.log with finished := true }
              stored := s.handed.length } := by
            simp [step?, MetricsLog.finish?, hclosed, hqueue]
          refine ⟨.finish, _, rfl, hstep, ?_, rfl⟩
          simp [ahead, hfinished]
      | cons event rest =>
          have hstep : s.step? .write = some { s with
              log := { s.log with
                queue := rest
                content := s.log.content.map (· ++ event.line) } } := by
            simp [step?, MetricsLog.write?, hqueue, hfinished]
          refine ⟨.write, _, rfl, hstep, ?_, rfl⟩
          simp [ahead, hqueue]
  | true =>
      cases c with
      | closed =>
          refine ⟨.take call, _, rfl, by rw [step?, take?, hcall], hset rfl ?_, List.length_set⟩
          cases s.handle <;> decide
      | waiting =>
          have hstep : s.step? (.leave call) =
              some { s with calls := s.calls.set call (.returned true) } := by
            simp [step?, leave?, hcall, hfinished]
          exact ⟨.leave call, _, rfl, hstep, hset rfl Nat.one_pos, List.length_set⟩
      | passing =>
          have hstep : s.step? (.leave call) =
              some { s with calls := s.calls.set call (.returned false) } := by
            simp [step?, leave?, hcall]
          exact ⟨.leave call, _, rfl, hstep, hset rfl Nat.one_pos, List.length_set⟩
      | returned waited => exact absurd rfl (hc waited)

/-- No call is ever stuck: without anything that is recorded or closed meanwhile, all calls that
have begun can return. -/
theorem exists_replay?_returned (h : Invariant before actions s) :
    ∃ more t, (∀ a ∈ more, a.proceeds = true) ∧ s.replay? more = some t ∧
      t.calls.length = s.calls.length ∧ ∀ c ∈ t.calls, ∃ waited, c = .returned waited := by
  induction hn : s.ahead using Nat.strongRecOn generalizing actions s with
  | ind n ih =>
      by_cases hall : ∀ c ∈ s.calls, ∃ waited, c = .returned waited
      · exact ⟨[], s, List.forall_mem_nil _, rfl, rfl, hall⟩
      · push Not at hall
        obtain ⟨c, hmem, hc⟩ := hall
        obtain ⟨call, hcall⟩ := List.getElem?_of_mem hmem
        obtain ⟨a, next, ha, hstep, hlt, hlength⟩ := h.exists_step hcall hc
        obtain ⟨more, t, hmore, hreplay, ht, hreturned⟩ :=
          ih next.ahead (hn ▸ hlt) (h.step hstep) rfl
        refine ⟨a :: more, t, List.forall_mem_cons.mpr ⟨ha, hmore⟩, ?_, ht.trans hlength,
          hreturned⟩
        exact Option.bind_eq_some_iff.mpr ⟨next, hstep, hreplay⟩

/-- Once a call to shut the log down has begun, all calls can return and leave the file complete. -/
theorem exists_replay?_complete (h : (onFile before).replay? actions = some s)
    (hcalls : s.calls ≠ []) :
    ∃ more t, (∀ a ∈ more, a.proceeds = true) ∧ s.replay? more = some t ∧
      t.calls.length = s.calls.length ∧ (∀ c ∈ t.calls, ∃ waited, c = .returned waited) ∧
      t.file = before ++ MetricsLog.lines (kept actions) := by
  have hinv := invariant_of_replay? h
  have hclose : .close ∈ actions := by
    by_contra hopen
    have haccepting := hinv.accepting.mpr hopen
    rw [hinv.calls.closed hcalls] at haccepting
    contradiction
  obtain ⟨more, t, hmore, hreplay, hlength, hreturned⟩ := exists_replay?_returned hinv
  obtain ⟨hlater, hkept⟩ := invariant_of_later h hclose hreplay
  have hbegun : t.calls ≠ [] := by
    rw [← List.length_pos_iff, hlength, List.length_pos_iff]
    exact hcalls
  refine ⟨more, t, hmore, hreplay, hlength, hreturned, ?_⟩
  rw [hlater.file_eq (hlater.calls.finished hbegun hreturned), hkept]

end Progress

/-- In whatever order events are recorded, the log is shut down and the writer works: what is
written and what is queued are together the events recorded before the log was closed, in their
order, and the file never holds anything else, whatever is recorded later. When a call returns, the
file is complete unless another call still waits for the writer; all calls can return, and then it
is. A complete file has a line for each event, which tells the event, behind the lines that it had
before, exactly if it had ended the last of those or there is no event. -/
theorem events_delivered {before : String} {actions : List Action} {s : SharedLog}
    (h : (onFile before).replay? actions = some s) :
    (∃ written, written ++ s.log.queue = kept actions ∧
      s.log.content = some (before ++ MetricsLog.lines written)) ∧
    s.file.toList <+: (before ++ MetricsLog.lines (kept actions)).toList ∧
    (∀ more t, .close ∈ actions → s.replay? more = some t →
      t.file.toList <+: (before ++ MetricsLog.lines (kept actions)).toList) ∧
    (∀ (call : Nat) (waited : Bool), s.calls[call]? = some (.returned waited) →
      s.file = before ++ MetricsLog.lines (kept actions) ∨
        waited = false ∧ ∃ other : Nat, s.calls[other]? = some .waiting) ∧
    (s.file = before ++ MetricsLog.lines (kept actions) ↔
      s.log.queue = [] ∧ s.stored = s.handed.length) ∧
    (s.calls ≠ [] → ∃ more t, (∀ a ∈ more, a.proceeds = true) ∧ s.replay? more = some t ∧
      t.calls.length = s.calls.length ∧ (∀ c ∈ t.calls, ∃ waited, c = .returned waited) ∧
      t.file = before ++ MetricsLog.lines (kept actions)) ∧
    (∀ c ∈ kept actions, CallMetrics.ofLine? c.toJson.compact = some c) ∧
    (Text.lines (before ++ MetricsLog.lines (kept actions)) =
        Text.lines before ++ (kept actions).map (fun c => c.toJson.compact) ↔
      kept actions = [] ∨ Text.EndsLine before) := by
  have hinv := invariant_of_replay? h
  refine ⟨hinv.delivers.written, hinv.file_prefix, ?later, ?returned, hinv.file_eq_iff,
    exists_replay?_complete h, fun c _ => c.ofLine?_compact,
    MetricsLog.lines_append_lines_iff before (kept actions)⟩
  case later =>
    intro more t hclose hmore
    obtain ⟨hlater, hkept⟩ := invariant_of_later h hclose hmore
    exact hkept ▸ hlater.file_prefix
  case returned =>
    intro call waited hcall
    exact (hinv.calls.finished_or_waiting hcall).imp_left hinv.file_eq

/-- An event that differs from others by its model. -/
def callOf (model : String) : CallMetrics := ⟨"2024", model, 1, 2, 3, CallMetrics.planSource, .success⟩

/-- A run with an event recorded too late and two calls, of which the second gets the handle and the
first returns at once. -/
def overlappingRun : List Action :=
  [.record (callOf "a"), .write, .record (callOf "b"), .close, .record (callOf "c"), .close,
    .take 1, .take 0, .leave 0, .write, .finish, .leave 1]

/-- When the first of these calls has returned, the other one waits until the file is complete. -/
theorem events_delivered_overlapping : ∃ s t,
    (onFile "old\n").replay? (overlappingRun.take 9) = some s ∧
    s.calls = [.returned false, .waiting] ∧
    s.replay? (overlappingRun.drop 9) = some t ∧
    t.calls = [.returned false, .returned true] ∧
    t.file.toList <+: ("old\n" ++ MetricsLog.lines [callOf "a", callOf "b"]).toList ∧
    t.file = "old\n" ++ MetricsLog.lines [callOf "a", callOf "b"] ∧
    Text.lines t.file = ["old", (callOf "a").toJson.compact, (callOf "b").toJson.compact] := by
  have hcalls : ((onFile "old\n").replay? (overlappingRun.take 9)).map SharedLog.calls =
      some [.returned false, .waiting] := by rfl
  have hlast : ((onFile "old\n").replay? overlappingRun).map SharedLog.calls =
      some [.returned false, .returned true] := by rfl
  obtain ⟨s, hs, hcalls⟩ := Option.map_eq_some_iff.mp hcalls
  obtain ⟨t, ht, hlast⟩ := Option.map_eq_some_iff.mp hlast
  have hmore : s.replay? (overlappingRun.drop 9) = some t := by
    rw [← replay?_append hs, List.take_append_drop]
    exact ht
  obtain ⟨-, -, hlater, -⟩ := events_delivered hs
  obtain ⟨-, -, -, hreturned, -, -, -, hlines⟩ := events_delivered ht
  have hfile : t.file = "old\n" ++ MetricsLog.lines [callOf "a", callOf "b"] := by
    rcases hreturned 1 true (by rw [hlast]; rfl) with hfile | ⟨hwaited, -⟩
    · exact hfile
    · nomatch hwaited
  refine ⟨s, t, hs, hcalls, hmore, hlast, hlater _ t (by decide) hmore, hfile, ?_⟩
  rw [hfile]
  exact hlines.mpr (Or.inr (Or.inr rfl))

/-- The call that returns at once leaves an event in the queue that was recorded before the log was
closed. Where the earlier content does not end its last line, the first event gets no line of its
own. -/
theorem lines_missing_when_calls_return :
    (∃ s, (onFile "old\n").replay? (overlappingRun.take 9) = some s ∧
      s.calls = [.returned false, .waiting] ∧ s.log.queue = [callOf "b"] ∧ s.file = "old\n" ∧
      s.file ≠ "old\n" ++ MetricsLog.lines (kept (overlappingRun.take 9))) ∧
    ∃ s, (onFile "old").replay? [.record (callOf "a"), .write, .close, .take 0, .finish, .leave 0] =
        some s ∧
      s.calls = [.returned true] ∧ s.file = "old" ++ MetricsLog.lines [callOf "a"] ∧
      Text.lines s.file ≠ ["old", (callOf "a").toJson.compact] := by
  constructor
  · have hstate : ((onFile "old\n").replay? (overlappingRun.take 9)).map
        (fun s => (s.calls, s.log.queue, s.stored)) =
          some ([.returned false, .waiting], [callOf "b"], 4) := by rfl
    obtain ⟨s, hs, hstate⟩ := Option.map_eq_some_iff.mp hstate
    simp only [Prod.mk.injEq] at hstate
    obtain ⟨hcalls, hqueue, hstored⟩ := hstate
    have hinv := invariant_of_replay? hs
    obtain ⟨written, -, hcontent⟩ := hinv.delivers.written
    have hfile : s.file = "old\n" := by
      have hlength : 4 = "old\n".toList.length := rfl
      rw [file, handed, hcontent, hstored, Option.getD_some, String.toList_append, hlength,
        List.take_left, String.ofList_toList]
    refine ⟨s, hs, hcalls, hqueue, hfile, ?_⟩
    rw [ne_eq, hinv.file_eq_iff, hqueue]
    simp
  · have hcalls : ((onFile "old").replay?
        [.record (callOf "a"), .write, .close, .take 0, .finish, .leave 0]).map SharedLog.calls =
          some [.returned true] := by rfl
    obtain ⟨s, hs, hcalls⟩ := Option.map_eq_some_iff.mp hcalls
    have hinv := invariant_of_replay? hs
    have hfile := hinv.file_eq (hinv.calls.returned 0 (by rw [hcalls]; rfl))
    refine ⟨s, hs, hcalls, hfile, ?_⟩
    rw [hfile]
    exact (MetricsLog.lines_append_lines_iff "old" [callOf "a"]).not.mpr (by decide)

end SharedLog

end ApiScreens
