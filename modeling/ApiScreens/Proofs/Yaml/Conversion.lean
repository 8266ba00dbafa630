import ApiScreens.Proofs.Json.WrittenRecord
import ApiScreens.Yaml.ToJson
import Mathlib.Logic.Relation

/-!
# What YAML values are converted to

A YAML value denotes a JSON value item by item: tags are dropped, numbers stay what they are, and
a mapping denotes the object in which every key has the last of the values under it. Conversion
answers the value that is denoted. It fails exactly if something is in the way somewhere inside:
a number that is not finite, or a key that is no plain scalar. The keys themselves are only read
as texts, so an infinite number may be a key.
-/

namespace ApiScreens.Yaml.Value

open Relation (ReflTransGen)

/-- The values that a value is converted by. -/
def parts : Value → List Value
  | sequence items => items
  | mapping entries => entries.map Prod.snd
  | tagged _ value => [value]
  | _ => []

/-- The keys of a mapping. -/
def keys : Value → List Value
  | mapping entries => entries.map Prod.fst
  | _ => []

theorem sizeOf_value_lt {entries : List (Value × Value)} {e : Value × Value} (h : e ∈ entries) :
    sizeOf e.2 < sizeOf (mapping entries) := by
  have hentry : sizeOf e.2 < sizeOf e := by
    cases e
    simp only [Prod.mk.sizeOf_spec]
    omega
  have hentries := List.sizeOf_lt_of_mem h
  rw [mapping.sizeOf_spec]
  omega

theorem sizeOf_lt_of_mem_parts {v w : Value} (h : w ∈ v.parts) : sizeOf w < sizeOf v := by
  cases v with
  | sequence items =>
      have hitems : sizeOf w < sizeOf items := List.sizeOf_lt_of_mem h
      rw [sequence.sizeOf_spec]
      omega
  | mapping entries =>
      obtain ⟨e, he, rfl⟩ := List.mem_map.mp h
      exact sizeOf_value_lt he
  | tagged tag value =>
      obtain rfl := List.mem_singleton.mp h
      rw [tagged.sizeOf_spec]
      omega
  | _ => contradiction

/-- Induction over values, with a hypothesis for every part. -/
theorem parts_induction {motive : Value → Prop}
    (step : ∀ v, (∀ w ∈ v.parts, motive w) → motive v) (v : Value) : motive v :=
  step v fun w _ => parts_induction step w
termination_by sizeOf v
decreasing_by exact sizeOf_lt_of_mem_parts ‹_›

/-- The text that stands for a key: keys are strings, numbers, booleans and null. -/
inductive KeyText : Value → String → Prop
  | string (s) : KeyText (.string s) s
  | number (n) : KeyText (.number n) n.text
  | bool (b) : KeyText (.bool b) (toString b)
  | null : KeyText .null "null"

theorem keyText_eq_ok_iff {key : Value} {text : String} :
    key.keyText = .ok text ↔ key.KeyText text := by
  constructor
  · intro h
    cases key with
    | null => exact Except.ok.inj h ▸ KeyText.null
    | bool b =>
        obtain rfl := Except.ok.inj h
        cases b
        · exact KeyText.bool false
        · exact KeyText.bool true
    | number n => exact Except.ok.inj h ▸ KeyText.number n
    | string s => exact Except.ok.inj h ▸ KeyText.string s
    | _ => contradiction
  · intro h
    cases h with
    | bool b => cases b <;> rfl
    | _ => rfl

/-- A YAML value denotes a JSON value. In a mapping `read` has the keys as texts and what the
values denote, entry by entry; the last of those with one text is the member. -/
inductive Denotes : Value → Json → Prop
  | null : Denotes .null .null
  | bool (b) : Denotes (.bool b) (.bool b)
  | int (n bounds) : Denotes (.number (.int n bounds)) (.number (.int n bounds))
  | float (d finite) : Denotes (.number (.float d)) (.number (.double d finite))
  | string (s) : Denotes (.string s) (.string s)
  | sequence {items js} (items_denote : List.Forall₂ Denotes items js) :
      Denotes (.sequence items) (.array js)
  | mapping {entries members} {read : Json.Members}
      (keys_read : List.Forall₂ (fun e m => KeyText e.1 m.1) entries read)
      (values_denote : List.Forall₂ (fun e m => Denotes e.2 m.2) entries read)
      (ascending : Keyed.Ascending members)
      (last : ∀ key, Keyed.get? members key = Keyed.get? read.reverse key) :
      Denotes (.mapping entries) (.object members)
  | tagged {tag value j} (value_denotes : Denotes value j) : Denotes (.tagged tag value) j

theorem ok_eq_ok_iff_denotes {v : Value} {i j : Json} (h : v.Denotes i)
    (hunique : ∀ k, v.Denotes k → k = i) :
    (Except.ok i : Except ToJsonError Json) = .ok j ↔ v.Denotes j := by
  constructor
  · intro heq
    exact Except.ok.inj heq ▸ h
  · intro hj
    rw [hunique j hj]

theorem number_toJson_eq_ok_iff {n : Number} {j : Json} :
    n.toJson = .ok j ↔ Denotes (.number n) j := by
  cases n with
  | int n bounds =>
      apply ok_eq_ok_iff_denotes (Denotes.int n bounds)
      rintro _ ⟨⟩
      rfl
  | float d =>
      rw [Number.toJson]
      by_cases hd : d.isFinite = true
      · rw [dif_pos hd]
        apply ok_eq_ok_iff_denotes (Denotes.float d hd)
        rintro _ ⟨⟩
        rfl
      · rw [dif_neg hd]
        apply iff_of_false
        · intro h
          contradiction
        · rintro ⟨⟩
          contradiction

theorem toJsonItems_eq_mapM (items : List Value) : toJsonItems items = items.mapM toJson := by
  induction items with
  | nil => rfl
  | cons v rest ih =>
      rw [toJsonItems, ih, List.mapM_cons]

/-- The member that an entry is read as. -/
def readEntry (e : Value × Value) : Except ToJsonError (String × Json) := do
  let key ← e.1.keyText
  let value ← e.2.toJson
  return (key, value)

theorem toJsonEntries_eq_mapM (entries : List (Value × Value)) :
    toJsonEntries entries = entries.mapM readEntry := by
  induction entries with
  | nil => rfl
  | cons e rest ih =>
      rw [toJsonEntries, ih, List.mapM_cons, readEntry, bind_assoc]
      apply bind_congr
      intro key
      rw [bind_assoc]
      rfl

theorem readEntry_eq_ok_iff {e : Value × Value} {m : String × Json} :
    readEntry e = .ok m ↔ KeyText e.1 m.1 ∧ e.2.toJson = .ok m.2 := by
  rw [readEntry, bind_eq_ok, ← keyText_eq_ok_iff]
  constructor
  · rintro ⟨key, hkey, h⟩
    obtain ⟨value, hvalue, h⟩ := bind_eq_ok.mp h
    obtain rfl := Except.ok.inj h
    exact ⟨hkey, hvalue⟩
  · rintro ⟨hkey, hvalue⟩
    exact ⟨m.1, hkey, bind_eq_ok.mpr ⟨m.2, hvalue, rfl⟩⟩

theorem sequence_toJson_eq_ok_iff {items : List Value} {j : Json}
    (hparts : ∀ v ∈ items, ∀ j, v.toJson = .ok j ↔ v.Denotes j) :
    (sequence items).toJson = .ok j ↔ Denotes (sequence items) j := by
  have hitems (js : List Json) :
      toJsonItems items = .ok js ↔ List.Forall₂ Denotes items js := by
    rw [toJsonItems_eq_mapM, Json.mapM_eq_ok]
    exact forall₂_congr_of_mem hparts
  rw [toJson, bind_eq_ok]
  constructor
  · rintro ⟨js, hjs, h⟩
    obtain rfl := Except.ok.inj h
    exact Denotes.sequence ((hitems js).mp hjs)
  · intro h
    cases h with | @sequence _ js hjs
    exact ⟨js, (hitems js).mpr hjs, rfl⟩

theorem mapping_toJson_eq_ok_iff {entries : List (Value × Value)} {j : Json}
    (hparts : ∀ e ∈ entries, ∀ j, e.2.toJson = .ok j ↔ e.2.Denotes j) :
    (mapping entries).toJson = .ok j ↔ Denotes (mapping entries) j := by
  have hentries (read : Json.Members) : toJsonEntries entries = .ok read ↔
      List.Forall₂ (fun e m => KeyText e.1 m.1) entries read ∧
        List.Forall₂ (fun e m => Denotes e.2 m.2) entries read := by
    rw [toJsonEntries_eq_mapM, Json.mapM_eq_ok, ← forall₂_and_iff]
    apply forall₂_congr_of_mem
    intro e he m
    rw [readEntry_eq_ok_iff, hparts e he]
  rw [toJson, bind_eq_ok]
  constructor
  · rintro ⟨read, hread, h⟩
    obtain rfl := Except.ok.inj h
    obtain ⟨hkeys, hvalues⟩ := (hentries read).mp hread
    exact Denotes.mapping hkeys hvalues (Keyed.sort_ascending read)
      fun key => Keyed.get?_sort_eq_get?_reverse read
  · intro h
    cases h with | @mapping _ members read hkeys hvalues hascending hlast
    -- Both sides ascend by key, so they are equal once every key looks up the same.
    have hsort : Keyed.sort read = members := by
      apply Keyed.eq_of_get? (Keyed.sort_ascending read) hascending
      intro key
      rw [Keyed.get?_sort_eq_get?_reverse, hlast]
    exact ⟨read, (hentries read).mpr ⟨hkeys, hvalues⟩, congrArg (Except.ok ∘ Json.object) hsort⟩

/-- Conversion answers what a value denotes. -/
theorem toJson_eq_ok_iff {v : Value} {j : Json} : v.toJson = .ok j ↔ v.Denotes j := by
  induction v using parts_induction generalizing j with | step v ih
  cases v with
  | null =>
      apply ok_eq_ok_iff_denotes Denotes.null
      rintro _ ⟨⟩
      rfl
  | bool b =>
      apply ok_eq_ok_iff_denotes (Denotes.bool b)
      rintro _ ⟨⟩
      rfl
  | number n => exact number_toJson_eq_ok_iff
  | string s =>
      apply ok_eq_ok_iff_denotes (Denotes.string s)
      rintro _ ⟨⟩
      rfl
  | sequence items =>
      apply sequence_toJson_eq_ok_iff
      intro v hv j
      exact ih v hv
  | mapping entries =>
      apply mapping_toJson_eq_ok_iff
      intro e he j
      exact ih e.2 (List.mem_map_of_mem he)
  | tagged tag value =>
      rw [toJson, ih value (List.mem_singleton.mpr rfl)]
      constructor
      · exact Denotes.tagged
      · rintro ⟨⟩
        assumption

theorem Denotes.isTree {v : Value} {j : Json} (h : v.Denotes j) : j.IsTree := by
  induction v using parts_induction generalizing j with | step v ih
  cases h with
  | null => exact Json.IsTree.null
  | bool b => exact Json.IsTree.bool b
  | int n bounds => exact Json.IsTree.number _
  | float d finite => exact Json.IsTree.number _
  | string s => exact Json.IsTree.string s
  | @sequence items js hitems =>
      apply Json.IsTree.array
      intro j hj
      obtain ⟨v, hv, hdenotes⟩ := exists_of_forall₂ hitems.flip hj
      exact ih v hv hdenotes
  | @mapping entries members read hkeys hvalues hascending hlast =>
      apply Json.IsTree.object hascending
      intro m hm
      have hget := (Keyed.get?_eq_some_iff hascending).mpr hm
      rw [hlast] at hget
      have hread : m ∈ read := List.mem_reverse.mp (Keyed.mem_of_get? hget)
      obtain ⟨e, he, hdenotes⟩ := exists_of_forall₂ hvalues.flip hread
      exact ih e.2 (List.mem_map.mpr ⟨e, he, rfl⟩) hdenotes
  | @tagged tag value j hvalue => exact ih value (List.mem_singleton.mpr rfl) hvalue

/-- Values of YAML documents are converted to trees. -/
theorem isTree_of_toJson {v : Value} {j : Json} (h : v.toJson = .ok j) : j.IsTree :=
  (toJson_eq_ok_iff.mp h).isTree

theorem KeyText.unique {key : Value} {s t : String} (hs : key.KeyText s) (ht : key.KeyText t) :
    s = t := by
  cases hs <;> cases ht <;> rfl

section Entries

variable {entries : List (Value × Value)} {read : Json.Members} {key : String}

theorem get?_reverse_eq_none_iff
    (h : List.Forall₂ (fun e m => readEntry e = .ok m) entries read) :
    Keyed.get? read.reverse key = none ↔ ∀ e ∈ entries, ¬ e.1.KeyText key := by
  induction h with
  | nil => exact ⟨fun _ => List.forall_mem_nil _, fun _ => rfl⟩
  | @cons e m _ _ hread _ ih =>
      have hkey : Keyed.get? [m] key = none ↔ ¬ e.1.KeyText key := by
        obtain ⟨htext, -⟩ := readEntry_eq_ok_iff.mp hread
        by_cases hsame : key = m.1
        · subst hsame
          rw [Keyed.get?_cons_self]
          exact iff_of_false nofun fun hnot => hnot htext
        · rw [Keyed.get?_cons_of_ne hsame]
          exact iff_of_true rfl fun hother => hsame (hother.unique htext)
      rw [List.reverse_cons, Keyed.get?_append, Option.or_eq_none_iff, ih, hkey,
        List.forall_mem_cons, and_comm]

/-- What is under a key in the end is what the last entry with that key is read as. -/
theorem get?_reverse_eq_some_iff {w : Json}
    (h : List.Forall₂ (fun e m => readEntry e = .ok m) entries read) :
    Keyed.get? read.reverse key = some w ↔
      ∃ before e after, entries = before ++ e :: after ∧ readEntry e = .ok (key, w) ∧
        ∀ f ∈ after, ¬ f.1.KeyText key := by
  induction h with
  | nil =>
      constructor
      · exact nofun
      · rintro ⟨before, e, after, hsplit, -⟩
        simp at hsplit
  | @cons e m entries read hread hrest ih =>
      rw [List.reverse_cons, Keyed.get?_append, Option.or_eq_some_iff, ih,
        get?_reverse_eq_none_iff hrest]
      constructor
      · rintro (⟨before, f, after, rfl, hf, hafter⟩ | ⟨hafter, hm⟩)
        · exact ⟨e :: before, f, after, rfl, hf, hafter⟩
        · obtain rfl := List.mem_singleton.mp (Keyed.mem_of_get? hm)
          exact ⟨[], e, entries, rfl, hread, hafter⟩
      · rintro ⟨before, f, after, hsplit, hf, hafter⟩
        cases before with
        | nil =>
            obtain ⟨rfl, rfl⟩ := List.cons.inj hsplit
            obtain rfl := Except.ok.inj (hread.symm.trans hf)
            exact Or.inr ⟨hafter, Keyed.get?_cons_self⟩
        | cons first before =>
            obtain ⟨-, rfl⟩ := List.cons.inj hsplit
            exact Or.inl ⟨before, f, after, rfl, hf, hafter⟩

/-- The members of the object that a mapping is converted to. -/
theorem get?_eq_some_iff_of_mapping {members : Json.Members} {w : Json}
    (h : (mapping entries).toJson = .ok (.object members)) :
    members.get? key = some w ↔
      ∃ before e after, entries = before ++ e :: after ∧ e.1.KeyText key ∧ e.2.toJson = .ok w ∧
        ∀ f ∈ after, ¬ f.1.KeyText key := by
  cases toJson_eq_ok_iff.mp h with | @mapping _ _ read hkeys hvalues hascending hlast
  have hread : List.Forall₂ (fun e m => readEntry e = .ok m) entries read := by
    simp only [readEntry_eq_ok_iff, toJson_eq_ok_iff]
    exact forall₂_and_iff.mpr ⟨hkeys, hvalues⟩
  rw [hlast, get?_reverse_eq_some_iff hread]
  simp only [readEntry_eq_ok_iff, and_assoc]

end Entries

/-- A number that is not finite, or a mapping with a key that is no plain scalar. -/
def Blocked (v : Value) : Prop :=
  (∃ d, v = .number (.float d) ∧ d.isFinite = false) ∨ ∃ key ∈ v.keys, ∀ text, ¬ key.KeyText text

theorem blocked_number_iff {n : Number} :
    (number n).Blocked ↔ ∃ d, n = .float d ∧ d.isFinite = false := by
  simp [Blocked, keys]

theorem blocked_mapping_iff {entries : List (Value × Value)} :
    (mapping entries).Blocked ↔ ∃ e ∈ entries, ∀ text, ¬ e.1.KeyText text := by
  simp [Blocked, keys]

theorem exists_number_toJson_iff {n : Number} : (∃ j, n.toJson = .ok j) ↔ ¬ (number n).Blocked := by
  rw [blocked_number_iff]
  cases n with
  | int n bounds => simp [Number.toJson]
  | float d =>
      by_cases hd : d.isFinite = true
      · simp [Number.toJson, hd]
      · simp [Number.toJson, hd]

/-- A value is converted if nothing is in the way in itself and its parts are converted. -/
theorem exists_toJson_iff_parts {v : Value} :
    (∃ j, v.toJson = .ok j) ↔ ¬ v.Blocked ∧ ∀ w ∈ v.parts, ∃ j, w.toJson = .ok j := by
  cases v with
  | number n =>
      rw [toJson, exists_number_toJson_iff]
      simp [parts]
  | sequence items =>
      rw [toJson, exists_bind_pure_eq_ok, toJsonItems_eq_mapM]
      simp only [Json.mapM_eq_ok, exists_forall₂_iff]
      simp [Blocked, keys, parts]
  | mapping entries =>
      rw [toJson, exists_bind_pure_eq_ok, toJsonEntries_eq_mapM, blocked_mapping_iff]
      simp only [Json.mapM_eq_ok, exists_forall₂_iff, readEntry_eq_ok_iff, Prod.exists,
        exists_and_left, exists_and_right, forall₂_and, parts, List.forall_mem_map]
      simp
  | tagged tag value =>
      rw [toJson]
      simp [Blocked, keys, parts]
  | _ => simp [toJson, Blocked, keys, parts]

/-- What is found in a value by going through items, values of entries and tags. -/
abbrev Reaches : Value → Value → Prop := ReflTransGen fun v w => w ∈ v.parts

/-- A value is converted if nothing is in the way anywhere in it. -/
theorem exists_toJson_iff {v : Value} :
    (∃ j, v.toJson = .ok j) ↔ ∀ w, v.Reaches w → ¬ w.Blocked := by
  induction v using parts_induction with | step v ih
  rw [exists_toJson_iff_parts]
  constructor
  · rintro ⟨hv, hparts⟩ w hw
    rcases ReflTransGen.cases_head hw with rfl | ⟨u, hu, huw⟩
    · exact hv
    · exact (ih u hu).mp (hparts u hu) w huw
  · intro h
    refine ⟨h v ReflTransGen.refl, ?_⟩
    intro w hw
    apply (ih w hw).mpr
    intro u hu
    exact h u (ReflTransGen.head hw hu)

theorem exists_toJson_error_iff {v : Value} :
    (∃ e, v.toJson = .error e) ↔ ∃ w, v.Reaches w ∧ w.Blocked := by
  calc (∃ e, v.toJson = .error e)
      ↔ ¬ ∃ j, v.toJson = .ok j := by cases v.toJson <;> simp
    _ ↔ ∃ w, v.Reaches w ∧ w.Blocked := by simp [exists_toJson_iff]

/-- A number of a JSON document as one of a YAML document. -/
def ofJsonNumber : Json.Number → Number
  | .int n bounds => .int n bounds
  | .double d _ => .float d

mutual

/-- The YAML value that stands for a JSON value. -/
def ofJson : Json → Value
  | .null => null
  | .bool b => bool b
  | .number n => number (ofJsonNumber n)
  | .string s => string s
  | .array items => sequence (ofJsonItems items)
  | .object members => mapping (ofJsonMembers members)

/-- The YAML values of items. -/
def ofJsonItems : List Json → List Value
  | [] => []
  | v :: rest => ofJson v :: ofJsonItems rest

/-- The entries of members. -/
def ofJsonMembers : Json.Members → List (Value × Value)
  | [] => []
  | (key, v) :: rest => (string key, ofJson v) :: ofJsonMembers rest

end

theorem toJsonItems_ofJsonItems {items : List Json}
    (h : ∀ v ∈ items, (ofJson v).toJson = .ok v) :
    toJsonItems (ofJsonItems items) = .ok items := by
  induction items with
  | nil => rfl
  | cons v rest ih =>
      obtain ⟨hv, hrest⟩ := List.forall_mem_cons.mp h
      rw [ofJsonItems, toJsonItems, hv, ih hrest]
      rfl

theorem toJsonEntries_ofJsonMembers {members : Json.Members}
    (h : ∀ m ∈ members, (ofJson m.2).toJson = .ok m.2) :
    toJsonEntries (ofJsonMembers members) = .ok members := by
  induction members with
  | nil => rfl
  | cons m rest ih =>
      obtain ⟨hm, hrest⟩ := List.forall_mem_cons.mp h
      rw [ofJsonMembers, toJsonEntries, hm, ih hrest]
      rfl

/-- The YAML value that stands for a tree is converted back to it. -/
theorem toJson_ofJson {tree : Json} (h : tree.IsTree) : (ofJson tree).toJson = .ok tree := by
  induction h with
  | number n =>
      cases n with
      | int n bounds => rfl
      | double d finite => exact dif_pos finite
  | @array items parts ih =>
      rw [ofJson, toJson, toJsonItems_ofJsonItems ih]
      rfl
  | @object members keys parts ih =>
      rw [ofJson, toJson, toJsonEntries_ofJsonMembers ih]
      exact congrArg (Except.ok ∘ Json.object) (Keyed.sort_eq_self keys)
  | _ => rfl

/-- Conversion fails exactly if something is in the way somewhere in the value, and else answers
what the value denotes; in an object every key has what the last entry with that key is converted
to. Every tree is what its own YAML value is converted to. -/
theorem toJson_outcome :
    (∀ v : Value, (∃ e, v.toJson = .error e) ↔ ∃ w, v.Reaches w ∧ w.Blocked) ∧
      (∀ (v : Value) (j : Json), v.toJson = .ok j ↔ v.Denotes j) ∧
      (∀ (entries : List (Value × Value)) (members : Json.Members),
        (mapping entries).toJson = .ok (.object members) →
        ∀ key w, members.get? key = some w ↔
          ∃ before e after, entries = before ++ e :: after ∧ e.1.KeyText key ∧
            e.2.toJson = .ok w ∧ ∀ f ∈ after, ¬ f.1.KeyText key) ∧
      ∀ tree : Json, tree.IsTree → (ofJson tree).toJson = .ok tree := by
  refine ⟨?failures, ?values, ?members, ?images⟩
  case failures =>
    intro v
    exact exists_toJson_error_iff
  case values =>
    intro v j
    exact toJson_eq_ok_iff
  case members =>
    intro entries members h key w
    exact get?_eq_some_iff_of_mapping h
  case images =>
    intro tree h
    exact toJson_ofJson h

/-- Two keys with one text: the later entry, under a tag, is the member. -/
theorem toJson_outcome_colliding :
    let one := Number.int 1 (by decide)
    let tagged := tagged "!t" (string "a")
    let entries := [(string "1", null), (bool true, number one), (number one, tagged)]
    let members : Json.Members := [("1", .string "a"), ("true", .number (.int 1 (by decide)))]
    (mapping entries).toJson = .ok (.object members) ∧
      (members.get? "1" = some (.string "a") ↔
        ∃ before e after, entries = before ++ e :: after ∧ e.1.KeyText "1" ∧
          e.2.toJson = .ok (.string "a") ∧ ∀ f ∈ after, ¬ f.1.KeyText "1") ∧
      (ofJson (.object members)).toJson = .ok (.object members) := by
  intro one tagged entries members
  have hread : toJsonEntries entries =
      .ok [("1", .null), ("true", .number (.int 1 (by decide))), ("1", .string "a")] := by
    rfl
  have h : (mapping entries).toJson = .ok (.object members) := by
    rw [toJson, hread]
    exact congrArg (Except.ok ∘ Json.object) (by decide +kernel)
  obtain ⟨-, -, hmembers, himages⟩ := toJson_outcome
  exact ⟨h, hmembers entries members h "1" (.string "a"), himages (.object members) (by decide)⟩

/-- An infinite number that is a key is no obstacle. -/
theorem infinite_key_is_converted :
    ¬ ∀ v : Value, (∃ e, v.toJson = .error e) ↔
      ∃ w, ReflTransGen (fun v w => w ∈ v.parts ++ v.keys) v w ∧ w.Blocked := by
  intro h
  let key : Value := number (.float (Double.infinite false))
  let v := mapping [(key, null)]
  have hreach : ReflTransGen (fun v w => w ∈ v.parts ++ v.keys) v key :=
    ReflTransGen.single (by simp [v, parts, keys])
  have hblocked : key.Blocked := blocked_number_iff.mpr ⟨_, rfl, by decide⟩
  obtain ⟨e, he⟩ := (h v).mpr ⟨key, hreach, hblocked⟩
  have hok : v.toJson = .ok (.object [(".inf", .null)]) := by rfl
  rw [hok] at he
  contradiction

end ApiScreens.Yaml.Value
