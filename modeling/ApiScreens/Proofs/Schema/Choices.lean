import ApiScreens.Proofs.Schema.Occurrences

/-!
# Choices have options

A field that a schema has is a choice exactly if it has some options, and stays so when the fields
of other schemas are added.
-/

namespace ApiScreens

/-- The field has options exactly if it is a choice. -/
def FieldInfo.HasOptions (info : FieldInfo) : Prop :=
  info.type = .choice ↔ ∃ options, info.options = some options ∧ options ≠ []

namespace FieldMap

/-- Adding an occurrence keeps what neither depends on being required nor fails for it. -/
theorem forall_mem_add {Q : FieldInfo → Prop} {fields : FieldMap} {info : FieldInfo}
    (hrequired : ∀ info b, Q info → Q { info with required := b })
    (hfields : ∀ f ∈ fields, Q f.toFieldInfo) (hinfo : Q info) :
    ∀ f ∈ fields.add info, Q f.toFieldInfo := by
  induction fields with
  | nil => exact List.forall_mem_singleton.mpr hinfo
  | cons known rest ih =>
      obtain ⟨hknown, hrest⟩ := List.forall_mem_cons.mp hfields
      unfold add
      split
      · exact List.forall_mem_cons.mpr ⟨hrequired _ _ hknown, hrest⟩
      · exact List.forall_mem_cons.mpr ⟨hknown, ih hrest⟩

theorem mem_of_get? {fields : FieldMap} {path : String} {info : FieldInfo}
    (h : fields.get? path = some info) : ⟨info, path⟩ ∈ fields := by
  obtain ⟨entry, hentry, rfl⟩ := Option.map_eq_some_iff.mp h
  obtain rfl : entry.key = path := by simpa using List.find?_some hentry
  exact List.mem_of_find?_eq_some hentry

theorem isSome_get? (fields : FieldMap) (path : String) :
    (fields.get? path).isSome = fields.has path := by
  rw [get?, has, Option.isSome_map, List.isSome_find?]

end FieldMap

namespace Schema

/-- A leaf is a choice exactly if it has options. -/
theorem hasOptions_of_form {schema : Json} {type : FieldType} {options : Option (List String)}
    (h : form schema = .leaf type options) (path : String) (required : Bool) :
    FieldInfo.HasOptions ⟨path, type, required, options⟩ := by
  unfold FieldInfo.HasOptions
  cases describes_iff.mpr h with
  | choice listed => exact iff_of_true rfl ⟨_, rfl, listed.2⟩
  | unlisted _ describes => cases describes <;> simp

/-- What holds of every leaf holds of every occurrence of a field. -/
theorem forall_mem_leaves {Q : FieldInfo → Prop}
    (hleaf : ∀ path required schema type options, form schema = .leaf type options →
      Q ⟨path, type, required, options⟩) (path : String) (schema : Json) :
    ∀ f ∈ leaves path schema, Q f := by
  apply leaves_induction (motive := fun _ _ _ infos => ∀ f ∈ infos, Q f)
  case done => exact fun _ _ => List.forall_mem_nil _
  case leaf =>
    intro path object name schema rest infos type options hform hmore
    exact List.forall_mem_cons.mpr ⟨hleaf _ _ _ _ _ hform, hmore⟩
  case values =>
    intro path object name schema rest infos hform hmore
    exact hmore
  case nested =>
    intro path object name schema rest infos inner hinner hinside hmore
    exact List.forall_mem_append.mpr ⟨hinside, hmore⟩

/-- The choices among the fields of a schema are those that have options. -/
theorem hasOptions_addTo {fields : FieldMap} (h : ∀ f ∈ fields, f.HasOptions) (schema : Json) :
    ∀ f ∈ addTo fields schema, f.HasOptions := by
  have hoccurrences : ∀ f ∈ occurrences schema, f.HasOptions := by
    unfold occurrences
    cases object? schema with
    | none => exact List.forall_mem_nil _
    | some s =>
        exact forall_mem_leaves (fun path required schema type options hform =>
          hasOptions_of_form hform path required) "" s
  unfold addTo
  generalize occurrences schema = infos at hoccurrences
  induction infos generalizing fields with
  | nil => exact h
  | cons info rest ih =>
      obtain ⟨hinfo, hrest⟩ := List.forall_mem_cons.mp hoccurrences
      rw [List.foldl_cons]
      apply ih
      · exact FieldMap.forall_mem_add (fun _ _ hoptions => hoptions) h hinfo
      · exact hrest

theorem hasOptions_foldl_addTo {fields : FieldMap} (h : ∀ f ∈ fields, f.HasOptions)
    (schemas : List Json) : ∀ f ∈ schemas.foldl addTo fields, f.HasOptions := by
  induction schemas generalizing fields with
  | nil => exact h
  | cons schema rest ih => exact ih (hasOptions_addTo h schema)

end Schema

end ApiScreens
