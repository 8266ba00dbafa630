import ApiScreens.Metrics.Log
import ApiScreens.Proofs.Json.ReadBack
import ApiScreens.Text.Split

/-!
# Lines of log files

A line of a log is read as the event that it was written for, so the lines tell the events. What is
written behind an earlier content stands in lines of its own exactly if that content ends its last
line; else the first of the lines is joined to what stood there.
-/

namespace ApiScreens

namespace Json

theorem readWord_ofWord (n : UInt64) : readWord (ofWord n) = .ok n := by
  have hrange : 0 ≤ (n.toNat : Int) ∧ (n.toNat : Int) < (UInt64.size : Nat) :=
    ⟨Int.natCast_nonneg _, Int.ofNat_lt.mpr n.toNat_lt⟩
  rw [readWord, ofWord, Number.ofWord, readNat, if_pos hrange]
  exact congrArg Except.ok UInt64.ofNat_toNat

theorem readsBack_ofWord (depth : Nat) (n : UInt64) : ReadsBack depth (ofWord n) :=
  .number (Number.readsBack_int _)

end Json

namespace CallMetrics

/-- The event that a line tells. -/
def ofLine? (line : String) : Option CallMetrics :=
  (Json.read? line).bind fun v => (read v).toOption

theorem sorted_toJson (c : CallMetrics) :
    c.toJson.sorted = .object [("completion_tokens", .ofWord c.completionTokens),
      ("duration_ms", .ofWord c.durationMillis), ("model", .string c.model),
      ("prompt_tokens", .ofWord c.promptTokens), ("source", .string c.source),
      ("status", .string c.status.name), ("timestamp", .string c.timestamp)] := by
  simp only [toJson, Json.sorted, Json.sortedMembers, Json.ofMembers, Json.ofWord, Keyed.sort,
    Keyed.insert, List.foldl_cons, List.foldl_nil, String.reduceLT, String.reduceEq, reduceIte]

theorem readName_status (status : CallStatus) :
    Json.readName (CallStatus.all.map fun s => (s.name, s)) (.string status.name) =
      .ok status := by
  cases status <;> rfl

/-- The JSON form of an event is read as the event, also with its members sorted. -/
theorem read_sorted_toJson (c : CallMetrics) : read c.toJson.sorted = .ok c := by
  rw [sorted_toJson]
  simp [read, Json.RecordShape.read, Json.RecordShape.putMember, shape, Json.RecordShape.keys, put,
    readName_status, Json.readWord_ofWord, Json.readText, Keyed.has]
  rfl

theorem readsBack_toJson (c : CallMetrics) : c.toJson.ReadsBack Json.maxDepth := by
  apply Json.ReadsBack.object
  simp [Json.readsBack_ofWord, Json.ReadsBack.string]

/-- The line of an event tells the event, so different events have different lines. -/
theorem ofLine?_compact (c : CallMetrics) : ofLine? c.toJson.compact = some c := by
  rw [ofLine?, Json.read?_compact c.readsBack_toJson, Option.bind_some, read_sorted_toJson]
  rfl

end CallMetrics

namespace Text

/-- The lines of a text. The last one need not be ended unless it is empty. -/
def lines (s : String) : List String :=
  let pieces := split '\n' s
  if pieces.getLast? = some "" then pieces.dropLast else pieces

/-- Whether a text ends its last line. -/
def EndsLine (s : String) : Prop := s = "" ∨ s.toList.getLast? = some '\n'

instance (s : String) : Decidable (EndsLine s) :=
  inferInstanceAs (Decidable (s = "" ∨ s.toList.getLast? = some '\n'))

theorem lines_of_split {s last : String} {pieces : List String}
    (h : split '\n' s = pieces ++ [last]) :
    lines s = if last = "" then pieces else pieces ++ [last] := by
  simp [lines, h]

/-- The last piece of a text is what a text without a separator goes on with. It is empty if nothing
stands behind the last separator. -/
theorem exists_splitChars (separator : Char) (cs : List Char) : ∃ pieces last,
    splitChars separator cs = pieces ++ [last] ∧
      (last = [] ↔ cs = [] ∨ cs.getLast? = some separator) ∧
      ∀ more, separator ∉ more →
        splitChars separator (cs ++ more) = pieces ++ [last ++ more] := by
  induction cs using List.reverseRecOn with
  | nil => exact ⟨[], [], rfl, by simp, fun more hmore => splitChars_eq_singleton hmore⟩
  | append_singleton cs c ih =>
      obtain ⟨pieces, last, hsplit, -, hmore⟩ := ih
      by_cases hc : c = separator
      · subst hc
        refine ⟨splitChars c cs, [], splitChars_append cs [], by simp, fun more h => ?_⟩
        rw [List.append_assoc, List.singleton_append, splitChars_append,
          splitChars_eq_singleton h, List.nil_append]
      · refine ⟨pieces, last ++ [c], hmore [c] (by simpa using Ne.symm hc), by simp [hc], ?_⟩
        intro more h
        have hcons : separator ∉ c :: more := by simp [Ne.symm hc, h]
        rw [List.append_assoc, List.append_assoc, List.singleton_append, hmore _ hcons]

end Text

namespace MetricsLog

theorem toList_lines_cons (event : CallMetrics) (rest : List CallMetrics) :
    (lines (event :: rest)).toList =
      event.toJson.compact.toList ++ '\n' :: (lines rest).toList := by
  simp [lines, String.toList_join, CallMetrics.line]

/-- The lines of events are one for each event, in their order. -/
theorem split_lines (events : List CallMetrics) :
    Text.split '\n' (lines events) = events.map (fun c => c.toJson.compact) ++ [""] := by
  rw [Text.split]
  induction events with
  | nil => rfl
  | cons event rest ih =>
      rw [toList_lines_cons, Text.splitChars_append, List.map_append, ih,
        Text.splitChars_eq_singleton (Json.newline_not_mem_compact _)]
      simp

theorem lines_eq_empty_iff {events : List CallMetrics} : lines events = "" ↔ events = [] := by
  cases events with
  | nil => exact iff_of_true rfl rfl
  | cons event rest => simp [lines, CallMetrics.line]

/-- Behind an earlier content, events have lines of their own exactly if the content ends its last
line. -/
theorem lines_append_lines_iff (before : String) (events : List CallMetrics) :
    Text.lines (before ++ lines events) =
        Text.lines before ++ events.map (fun c => c.toJson.compact) ↔
      events = [] ∨ Text.EndsLine before := by
  obtain ⟨pieces, last, hsplit, hlast, hmore⟩ := Text.exists_splitChars '\n' before.toList
  have hends : Text.EndsLine before ↔ String.ofList last = "" := by
    rw [String.ofList_eq_empty_iff, hlast, Text.EndsLine, String.toList_eq_nil_iff]
  have hbefore : Text.split '\n' before = pieces.map String.ofList ++ [String.ofList last] := by
    simp [Text.split, hsplit]
  cases events with
  | nil => simp [lines]
  | cons event rest =>
      have hjoined : Text.split '\n' (before ++ lines (event :: rest)) =
          (pieces.map String.ofList ++ (String.ofList last ++ event.toJson.compact) ::
            rest.map fun c => c.toJson.compact) ++ [""] := by
        have hrest := split_lines rest
        rw [Text.split] at hrest ⊢
        rw [String.toList_append, toList_lines_cons, ← List.append_assoc, Text.splitChars_append,
          hmore _ (Json.newline_not_mem_compact _), List.map_append, hrest]
        simp
      rw [Text.lines_of_split hjoined, if_pos rfl, Text.lines_of_split hbefore, hends]
      split
      · rename_i hended
        simp [hended]
      · rename_i hopen
        -- There is one line less, as the first one is joined to what stood there.
        simp [hopen]

end MetricsLog

end ApiScreens
