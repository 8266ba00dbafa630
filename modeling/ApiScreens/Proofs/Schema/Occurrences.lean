import ApiScreens.Proofs.Schema.Forms

/-!
# Occurrences of fields in schemas

The properties of an object schema are visited in ascending order of their names. One that holds a
single value is an occurrence of a field; those of a nested object or of the objects in an array
follow in its place, with the path to them in front; other arrays are passed over. Of every schema
there is one such visit, and flattening makes it.
-/

namespace ApiScreens.Schema

/-- The object schema of a schema: itself, or that of the objects in an array. -/
inductive ObjectOf (schema : Json) : Json → Prop
  | itself (describes : Describes schema .object) : ObjectOf schema schema
  | items {object : Json} (describes : Describes schema (.objects object)) : ObjectOf schema object

/-- The properties of an object schema in ascending order of their names. -/
structure InNameOrder (object : Json) (order : Json.Members) : Prop where
  perm : order.Perm (object.membersAt "properties")
  ascending : order.Ascending

/-- A visit of properties of an object schema that lies at a path, with the occurrences of fields
in the order of the visit. -/
inductive Visits : String → Json → Json.Members → List FieldInfo → Prop
  | done (path : String) (object : Json) : Visits path object [] []
  | leaf {path name : String} {object schema : Json} {rest : Json.Members} {type : FieldType}
      {options : Option (List String)} {required : Bool} {infos : List FieldInfo}
      (describes : Describes schema (.leaf type options))
      (required_iff : required = true ↔ .string name ∈ object.itemsAt "required")
      (more : Visits path object rest infos) :
      Visits path object ((name, schema) :: rest)
        (⟨pathTo path name, type, required, options⟩ :: infos)
  | values {path name : String} {object schema : Json} {rest : Json.Members}
      {infos : List FieldInfo} (describes : Describes schema .values)
      (more : Visits path object rest infos) : Visits path object ((name, schema) :: rest) infos
  | nested {path name : String} {object schema inner : Json} {rest order : Json.Members}
      {below infos : List FieldInfo} (contributes : ObjectOf schema inner)
      (inOrder : InNameOrder inner order) (inside : Visits (pathTo path name) inner order below)
      (more : Visits path object rest infos) :
      Visits path object ((name, schema) :: rest) (below ++ infos)

/-- The occurrences of fields in a schema: those of a visit of its object schema, if it has one. -/
inductive Occurs (schema : Json) : List FieldInfo → Prop
  | visited {object : Json} {order : Json.Members} {infos : List FieldInfo}
      (contributes : ObjectOf schema object) (inOrder : InNameOrder object order)
      (visits : Visits "" object order infos) : Occurs schema infos
  | nothing (contributes : ∀ object, ¬ ObjectOf schema object) : Occurs schema []

variable {schema object : Json}

section Objects

theorem get?_items_of_describes (h : Describes schema (.objects object)) :
    schema.get? "items" = some object := by
  cases h with
  | unlisted _ h =>
      cases h with
      | objects _ hitems _ => exact hitems

theorem ObjectOf.isTree (h : ObjectOf schema object) (htree : schema.IsTree) : object.IsTree := by
  cases h with
  | itself => exact htree
  | items describes => exact htree.get? (get?_items_of_describes describes)

theorem object?_eq_some_iff : object? schema = some object ↔ ObjectOf schema object := by
  unfold object?
  constructor
  · intro h
    split at h
    · rename_i hform
      obtain rfl := Option.some.inj h
      exact .itself (describes_iff.mpr hform)
    · rename_i items hform
      obtain rfl := Option.some.inj h
      exact .items (describes_iff.mpr hform)
    · contradiction
  · intro h
    cases h with
    | itself describes => rw [describes_iff.mp describes]
    | items describes => rw [describes_iff.mp describes]

/-- The properties of a tree are in order as they stand, and in no other order. -/
theorem inNameOrder_iff (h : object.IsTree) {order : Json.Members} :
    InNameOrder object order ↔ order = properties object := by
  have hascending : (properties object).Ascending := (h.membersAt "properties").1
  constructor
  · rintro ⟨hperm, horder⟩
    apply hperm.eq_of_pairwise _ horder hascending
    intro m n _ _ hmn hnm
    exact absurd hnm (String.lt_asymm hmn)
  · rintro rfl
    exact ⟨List.Perm.refl _, hascending⟩

theorem contains_requiredNames (object : Json) (name : String) :
    (requiredNames object).contains name = true ↔ .string name ∈ object.itemsAt "required" := by
  rw [List.contains_iff_mem, requiredNames, List.mem_filterMap]
  constructor
  · rintro ⟨v, hv, htext⟩
    exact Json.string?_eq_some_iff.mp htext ▸ hv
  · intro h
    exact ⟨_, h, rfl⟩

end Objects

section Leaves

variable {path : String}

theorem leaves_eq (path : String) (schema : Json) :
    leaves path schema = leavesOfEach path (requiredNames schema) (properties schema) := by
  cases schema with
  | object members =>
      rw [leaves]
      generalize requiredNames (.object members) = required
      unfold properties Json.get?
      simp only [Json.members?, Option.bind_some]
      induction members with
      | nil => rfl
      | cons m rest ih =>
          obtain ⟨k, v⟩ := m
          by_cases hk : k = "properties"
          · cases v <;> simp [leavesUnder, Keyed.get?, hk, Json.members?, leavesOfEach]
          · have hrest : leavesUnder path required ((k, v) :: rest) =
                leavesUnder path required rest := by
              cases v <;> simp [leavesUnder, hk]
            rw [hrest, ih]
            simp [Keyed.get?, hk]
  | _ => rfl

theorem leavesOfItems_eq (path : String) (schema : Json) :
    leavesOfItems path schema = ((schema.get? "items").map (leaves path)).getD [] := by
  cases schema with
  | object members =>
      rw [leavesOfItems]
      unfold Json.get?
      simp only [Json.members?, Option.bind_some]
      induction members with
      | nil => rfl
      | cons m rest ih =>
          obtain ⟨k, v⟩ := m
          by_cases hk : k = "items"
          · simp [leavesUnderItems, Keyed.get?, hk]
          · rw [leavesUnderItems, if_neg hk, ih]
            simp [Keyed.get?, hk]
  | _ => rfl

/-- The fields of an object schema follow in the place of a property that contributes it. -/
theorem leavesOfEach_of_objectOf (h : ObjectOf schema object) (required : List String)
    (name : String) (rest : Json.Members) :
    leavesOfEach path required ((name, schema) :: rest) =
      leaves (pathTo path name) object ++ leavesOfEach path required rest := by
  rw [leavesOfEach]
  cases h with
  | itself describes => rw [describes_iff.mp describes]
  | items describes =>
      rw [describes_iff.mp describes, leavesOfItems_eq, get?_items_of_describes describes]
      rfl

/-- A visit of trees has the fields that flattening finds. -/
theorem Visits.eq_leavesOfEach {order : Json.Members} {infos : List FieldInfo}
    (h : Visits path object order infos) (htrees : ∀ m ∈ order, m.2.IsTree) :
    infos = leavesOfEach path (requiredNames object) order := by
  induction h with
  | done => rfl
  | @leaf path name object schema rest type options required infos describes required_iff _ ih =>
      have hrequired : (requiredNames object).contains name = required := by
        rw [Bool.eq_iff_iff, contains_requiredNames, required_iff]
      rw [leavesOfEach, describes_iff.mp describes, ← ih (List.forall_mem_cons.mp htrees).2,
        hrequired]
      rfl
  | values describes _ ih =>
      rw [leavesOfEach, describes_iff.mp describes, ← ih (List.forall_mem_cons.mp htrees).2]
      rfl
  | @nested path name object schema inner rest order below infos contributes inOrder _ _
      ihinside ihmore =>
      obtain ⟨hschema, hrest⟩ := List.forall_mem_cons.mp htrees
      have hinner : inner.IsTree := contributes.isTree hschema
      obtain rfl : order = properties inner := (inNameOrder_iff hinner).mp inOrder
      rw [leavesOfEach_of_objectOf contributes, leaves_eq, ← ihmore hrest,
        ← ihinside (hinner.membersAt "properties").2]

theorem sizeOf_lt_of_mem_properties {m : String × Json} (h : m ∈ properties schema) :
    sizeOf m.2 < sizeOf schema := by
  unfold properties at h
  cases hproperties : schema.get? "properties" with
  | none =>
      rw [hproperties] at h
      contradiction
  | some v =>
      rw [hproperties, Option.bind_some] at h
      cases v with
      | object members =>
          exact Nat.lt_trans (@Json.sizeOf_lt_of_mem members m h) (Json.sizeOf_get?_lt hproperties)
      | _ => contradiction

theorem ObjectOf.sizeOf_le (h : ObjectOf schema object) : sizeOf object ≤ sizeOf schema := by
  cases h with
  | itself => exact Nat.le_refl _
  | items describes => exact Nat.le_of_lt (Json.sizeOf_get?_lt (get?_items_of_describes describes))

/-- Induction on object schemas, with a hypothesis for every one that a property contributes. -/
theorem objects_induction {motive : Json → Prop}
    (step : ∀ object, (∀ m ∈ properties object, ∀ inner, ObjectOf m.2 inner → motive inner) →
      motive object) (object : Json) : motive object := by
  induction hsize : sizeOf object using Nat.strongRecOn generalizing object with
  | _ size ih =>
      apply step
      intro m hm inner hinner
      have hlt : sizeOf inner < size := by
        rw [← hsize]
        exact Nat.lt_of_le_of_lt hinner.sizeOf_le (sizeOf_lt_of_mem_properties hm)
      exact ih _ hlt inner rfl

/-- Induction on how flattening goes through the properties of an object schema: what holds of no
properties, and of more properties as it holds of fewer, holds of what it finds in all of them. -/
theorem leaves_induction {motive : String → Json → Json.Members → List FieldInfo → Prop}
    (done : ∀ path object, motive path object [] [])
    (leaf : ∀ path object name schema rest infos type options,
      form schema = .leaf type options → motive path object rest infos →
      motive path object ((name, schema) :: rest)
        (⟨pathTo path name, type, (requiredNames object).contains name, options⟩ :: infos))
    (values : ∀ path object name schema rest infos, form schema = .values →
      motive path object rest infos → motive path object ((name, schema) :: rest) infos)
    (nested : ∀ path object name schema rest infos inner, ObjectOf schema inner →
      motive (pathTo path name) inner (properties inner) (leaves (pathTo path name) inner) →
      motive path object rest infos →
      motive path object ((name, schema) :: rest) (leaves (pathTo path name) inner ++ infos))
    (path : String) (object : Json) :
    motive path object (properties object) (leaves path object) := by
  induction object using objects_induction generalizing path with
  | step object ih =>
      rw [leaves_eq]
      generalize properties object = order at ih
      induction order with
      | nil => exact done path object
      | cons m rest ihrest =>
          obtain ⟨name, schema⟩ := m
          obtain ⟨ihhere, ihbelow⟩ := List.forall_mem_cons.mp ih
          have hmore := ihrest ihbelow
          have hnested {inner : Json} (hinner : ObjectOf schema inner) :
              motive path object ((name, schema) :: rest)
                (leavesOfEach path (requiredNames object) ((name, schema) :: rest)) := by
            rw [leavesOfEach_of_objectOf hinner]
            exact nested _ _ _ _ _ _ _ hinner (ihhere inner hinner _) hmore
          cases hform : form schema with
          | object => exact hnested (.itself (describes_iff.mpr hform))
          | objects items => exact hnested (.items (describes_iff.mpr hform))
          | values =>
              rw [leavesOfEach, hform]
              exact values _ _ _ _ _ _ hform hmore
          | leaf type options =>
              rw [leavesOfEach, hform]
              exact leaf _ _ _ _ _ _ _ _ hform hmore

/-- Flattening visits the properties of a tree. -/
theorem visits_leaves (h : object.IsTree) (path : String) :
    Visits path object (properties object) (leaves path object) := by
  have hvisits := leaves_induction (motive := fun path object order infos =>
    (∀ m ∈ order, m.2.IsTree) → Visits path object order infos) ?done ?leaf ?values ?nested path
    object
  · exact hvisits (h.membersAt "properties").2
  case done => exact fun path object _ => .done path object
  case leaf =>
    intro path object name schema rest infos type options hform hmore htrees
    refine .leaf (describes_iff.mpr hform) (contains_requiredNames object name) ?_
    exact hmore (List.forall_mem_cons.mp htrees).2
  case values =>
    intro path object name schema rest infos hform hmore htrees
    exact .values (describes_iff.mpr hform) (hmore (List.forall_mem_cons.mp htrees).2)
  case nested =>
    intro path object name schema rest infos inner hinner hinside hmore htrees
    obtain ⟨hschema, hrest⟩ := List.forall_mem_cons.mp htrees
    have htree : inner.IsTree := hinner.isTree hschema
    refine .nested hinner ((inNameOrder_iff htree).mpr rfl) ?_ (hmore hrest)
    exact hinside (htree.membersAt "properties").2

end Leaves

/-- The occurrences of fields in a tree are those that flattening finds. -/
theorem occurs_iff (h : schema.IsTree) {infos : List FieldInfo} :
    Occurs schema infos ↔ infos = occurrences schema := by
  unfold occurrences
  constructor
  · intro hoccurs
    cases hoccurs with
    | @visited object order infos contributes inOrder visits =>
        have hobject : object.IsTree := contributes.isTree h
        obtain rfl : order = properties object := (inNameOrder_iff hobject).mp inOrder
        rw [object?_eq_some_iff.mpr contributes, Option.map_some, Option.getD_some, leaves_eq]
        exact visits.eq_leavesOfEach (hobject.membersAt "properties").2
    | nothing contributes =>
        cases hobject : object? schema with
        | none => rfl
        | some object => exact absurd (object?_eq_some_iff.mp hobject) (contributes object)
  · rintro rfl
    cases hobject : object? schema with
    | none =>
        apply Occurs.nothing
        intro object hcontributes
        rw [object?_eq_some_iff.mpr hcontributes] at hobject
        contradiction
    | some object =>
        have hcontributes := object?_eq_some_iff.mp hobject
        have htree : object.IsTree := hcontributes.isTree h
        exact .visited hcontributes ((inNameOrder_iff htree).mpr rfl) (visits_leaves htree "")

end ApiScreens.Schema
