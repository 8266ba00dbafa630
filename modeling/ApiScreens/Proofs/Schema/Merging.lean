import ApiScreens.Proofs.Distinct
import ApiScreens.Proofs.Pointwise
import ApiScreens.Proofs.Schema.Choices
import ApiScreens.Proofs.Schema.Occurrences

/-!
# Merging the fields of schemas

Flattening several schemas into one field map leaves one entry for every path, in the order in which
the paths first occur. An entry says what the first occurrence of its path says, and is required if
any occurrence is.
-/

namespace ApiScreens

namespace FieldMap

/-- A field map merges occurrences of fields, given in the order in which they were added. -/
structure Merges (fields : FieldMap) (infos : List FieldInfo) : Prop where
  keys : InFirstOrder (infos.map (·.path)) (fields.map (·.key))
  path : ∀ f ∈ fields, f.path = f.key
  first : ∀ f ∈ fields, ∃ info, infos.find? (·.path == f.key) = some info ∧
    f.type = info.type ∧ f.options = info.options
  required : ∀ f ∈ fields, f.required = true ↔
    ∃ info ∈ infos, info.path = f.key ∧ info.required = true

variable {fields : FieldMap} {infos : List FieldInfo} {info : FieldInfo}

/-- An entry after an occurrence was added whose path was known. -/
def joined (info : FieldInfo) (f : FieldEntry) : FieldEntry :=
  { f with required := f.required || (f.key == info.path && info.required) }

theorem joined_required (info : FieldInfo) (f : FieldEntry) : (joined info f).required = true ↔
    f.required = true ∨ (info.path = f.key ∧ info.required = true) := by
  rw [joined, Bool.or_eq_true, Bool.and_eq_true, beq_iff_eq, eq_comm (a := f.key)]

theorem joined_of_eq {f : FieldEntry} (h : f.key = info.path) :
    joined info f = { f with required := f.required || info.required } := by
  rw [joined, beq_iff_eq.mpr h, Bool.true_and]

theorem joined_of_ne {f : FieldEntry} (h : f.key ≠ info.path) : joined info f = f := by
  rw [joined, beq_eq_false_iff_ne.mpr h, Bool.false_and, Bool.or_false]

theorem add_of_mem (hnodup : (fields.map (·.key)).Nodup) (h : info.path ∈ fields.map (·.key)) :
    fields.add info = fields.map (joined info) := by
  induction fields with
  | nil => contradiction
  | cons known rest ih =>
      obtain ⟨hfirst, hnodup⟩ := List.nodup_cons.mp hnodup
      rw [add, List.map_cons]
      by_cases hkey : known.key = info.path
      · have hrest : rest.map (joined info) = rest := by
          rw [List.map_congr_left (g := id), List.map_id]
          intro f hf
          apply joined_of_ne
          rw [← hkey]
          exact fun heq => hfirst (List.mem_map.mpr ⟨f, hf, heq⟩)
        rw [if_pos hkey, hrest, joined_of_eq hkey]
      · have hmem : info.path ∈ rest.map (·.key) :=
          (List.mem_cons.mp h).resolve_left (Ne.symm hkey)
        rw [if_neg hkey, joined_of_ne hkey, ih hnodup hmem]

theorem add_of_not_mem (h : info.path ∉ fields.map (·.key)) :
    fields.add info = fields ++ [⟨info, info.path⟩] := by
  induction fields with
  | nil => rfl
  | cons known rest ih =>
      obtain ⟨hne, hrest⟩ := not_or.mp (mt List.mem_cons.mpr h)
      rw [add, if_neg (Ne.symm hne), ih hrest]
      rfl

theorem exists_required_concat (infos : List FieldInfo) (info : FieldInfo) (path : String) :
    (∃ other ∈ infos ++ [info], other.path = path ∧ other.required = true) ↔
      (∃ other ∈ infos, other.path = path ∧ other.required = true) ∨
        (info.path = path ∧ info.required = true) := by
  simp only [List.mem_append, List.mem_singleton, or_and_right, exists_or, exists_eq_left]

namespace Merges

theorem nil : Merges [] [] where
  keys := .nil
  path := List.forall_mem_nil _
  first := List.forall_mem_nil _
  required := List.forall_mem_nil _

/-- An occurrence of a path that is known only counts for what is required. -/
theorem add_known (h : fields.Merges infos) (hknown : info.path ∈ infos.map (·.path)) :
    (fields.add info).Merges (infos ++ [info]) := by
  have hmem : info.path ∈ fields.map (·.key) := (h.keys.mem_iff _).mpr hknown
  rw [add_of_mem h.keys.nodup hmem]
  constructor
  case keys =>
    rw [List.map_append, List.map_map]
    exact h.keys.concat_of_mem hknown
  all_goals
    intro g hg
    obtain ⟨f, hf, rfl⟩ := List.mem_map.mp hg
  case path => exact h.path f hf
  case first =>
    obtain ⟨first, hfirst, hsame⟩ := h.first f hf
    refine ⟨first, ?_, hsame⟩
    exact (List.find?_append ..).trans (by rw [← Option.some_or, ← hfirst]; rfl)
  case required =>
    rw [joined_required, h.required f hf]
    exact (exists_required_concat infos info f.key).symm

/-- An occurrence of a new path comes last. -/
theorem add_new (h : fields.Merges infos) (hnew : info.path ∉ infos.map (·.path)) :
    (fields.add info).Merges (infos ++ [info]) := by
  have hmem : info.path ∉ fields.map (·.key) := mt (h.keys.mem_iff _).mp hnew
  have hne (other : FieldInfo) (hother : other ∈ infos) : other.path ≠ info.path :=
    fun heq => hnew (heq ▸ List.mem_map_of_mem hother)
  rw [add_of_not_mem hmem]
  constructor
  case keys =>
    rw [List.map_append, List.map_append]
    exact h.keys.concat_of_not_mem hnew
  all_goals
    rw [List.forall_mem_append, List.forall_mem_singleton]
  case path => exact ⟨h.path, rfl⟩
  case first =>
    constructor
    · intro f hf
      obtain ⟨first, hfirst, hsame⟩ := h.first f hf
      exact ⟨first, by rw [List.find?_append, hfirst, Option.some_or], hsame⟩
    · have hnone : infos.find? (·.path == info.path) = none := by
        rw [List.find?_eq_none]
        intro other hother
        rw [beq_iff_eq]
        exact hne other hother
      refine ⟨info, ?_, rfl, rfl⟩
      rw [List.find?_append, hnone, Option.none_or, List.find?_singleton]
      exact if_pos (beq_self_eq_true _)
  case required =>
    constructor
    · intro f hf
      have hkey : info.path ≠ f.key := fun heq => hmem (heq ▸ List.mem_map_of_mem hf)
      rw [exists_required_concat, h.required f hf, or_iff_left fun hnew => hkey hnew.1]
    · rw [exists_required_concat]
      constructor
      · exact fun hrequired => Or.inr ⟨rfl, hrequired⟩
      · rintro (⟨other, hother, heq, -⟩ | ⟨-, hrequired⟩)
        · exact absurd heq (hne other hother)
        · exact hrequired

/-- Adding an occurrence merges it. -/
theorem add (h : fields.Merges infos) (info : FieldInfo) :
    (fields.add info).Merges (infos ++ [info]) := by
  by_cases hknown : info.path ∈ infos.map (·.path)
  · exact h.add_known hknown
  · exact h.add_new hknown

/-- Adding occurrences one after the other merges them all. -/
theorem foldl_add (h : fields.Merges infos) (more : List FieldInfo) :
    Merges (more.foldl FieldMap.add fields) (infos ++ more) := by
  induction more generalizing infos fields with
  | nil => rwa [List.append_nil]
  | cons info rest ih =>
      rw [List.append_cons]
      exact ih (h.add info)

end Merges

end FieldMap

namespace Schema

theorem foldl_addTo_eq (fields : FieldMap) (schemas : List Json) :
    schemas.foldl addTo fields = (schemas.flatMap occurrences).foldl FieldMap.add fields := by
  induction schemas generalizing fields with
  | nil => rfl
  | cons schema rest ih =>
      rw [List.foldl_cons, ih, List.flatMap_cons, List.foldl_append]
      rfl

/-- The lists of occurrences of trees are those that flattening finds. -/
theorem forall₂_occurs_iff {schemas : List Json} (h : ∀ schema ∈ schemas, schema.IsTree)
    {each : List (List FieldInfo)} :
    List.Forall₂ Occurs schemas each ↔ each = schemas.map occurrences := by
  induction schemas generalizing each with
  | nil => simp
  | cons schema rest ih =>
      obtain ⟨hschema, hrest⟩ := List.forall_mem_cons.mp h
      rw [List.forall₂_cons_left_iff, List.map_cons]
      simp only [occurs_iff hschema, ih hrest, exists_eq_left, exists_and_left]

/-- Flattening schemas into one field map merges their occurrences of fields, of which every schema
has one list: the entries stand under the paths in the order in which these first occur, each says
what the first occurrence of its path says and is required if any occurrence is, and those of
choices are those that have options. -/
theorem flattened_fields (schemas : List Json) (h : ∀ schema ∈ schemas, schema.IsTree) :
    ∃ each : List (List FieldInfo),
      (∀ other, List.Forall₂ Occurs schemas other ↔ other = each) ∧
      FieldMap.Merges (schemas.foldl addTo []) each.flatten ∧
      ∀ f ∈ schemas.foldl addTo [], f.type = .choice ↔
        ∃ options, f.options = some options ∧ options ≠ [] := by
  refine ⟨schemas.map occurrences, fun other => forall₂_occurs_iff h, ?_, ?_⟩
  · rw [foldl_addTo_eq, List.flatMap_def]
    exact FieldMap.Merges.nil.foldl_add _
  · exact hasOptions_foldl_addTo (List.forall_mem_nil _) schemas

/-- Two schemas in which a dotted name and a nested one make the same path. -/
def collidingSchemas : List Json :=
  let text := Json.object [("type", .string "string")]
  let count := Json.object [("type", Json.ofStrings ["null", "integer"])]
  let kind := Json.object [("enum", Json.ofStrings ["new", "used"])]
  [.object [("properties", .object [
      ("size", .object [("properties", .object [("width", count)]), ("type", .string "object")]),
      ("size.width", text), ("tags", .object [("items", text), ("type", .string "array")])]),
    ("required", Json.ofStrings ["size", "tags"])],
   .object [("items", .object [("properties", .object [("kind", kind), ("size.width", text)]),
      ("required", Json.ofStrings ["size.width"])])]]

theorem flattened_fields_colliding :
    (∀ schema ∈ collidingSchemas, schema.IsTree) ∧
    collidingSchemas.foldl addTo [] =
      [⟨⟨"size.width", .number, true, none⟩, "size.width"⟩,
        ⟨⟨"kind", .choice, false, some ["new", "used"]⟩, "kind"⟩] ∧
    ∃ each, List.Forall₂ Occurs collidingSchemas each ∧
      FieldMap.Merges (collidingSchemas.foldl addTo []) each.flatten := by
  have htrees : ∀ schema ∈ collidingSchemas, schema.IsTree := by decide +kernel
  obtain ⟨each, hall, hmerges, -⟩ := flattened_fields collidingSchemas htrees
  exact ⟨htrees, by decide +kernel, each, (hall each).mpr rfl, hmerges⟩

end Schema

end ApiScreens
