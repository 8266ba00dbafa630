import ApiScreens.Proofs.Json.Tree
import ApiScreens.Schema.Flatten

/-!
# What schemas describe

Every schema describes one form. A schema that lists options is a choice among them; any other is
read by the type that it states or, where it states none, by its properties and its items.
-/

namespace ApiScreens

theorem Json.string?_eq_some_iff {v : Json} {text : String} :
    v.string? = some text ↔ v = .string text := by
  cases v <;> simp [Json.string?]

namespace Schema

/-- The schema lists options: its `enum` has items, all of them strings. -/
def ListsOptions (schema : Json) (options : List String) : Prop :=
  schema.itemsAt "enum" = options.map .string ∧ options ≠ []

/-- The schema states a type, alone or as the first text but `null` in an array. -/
inductive States (schema : Json) (type : String) : Prop
  | alone (stated : schema.get? "type" = some (.string type))
  | first (before after : List Json)
      (stated : schema.get? "type" = some (.array (before ++ .string type :: after)))
      (known : type ≠ "null") (skipped : ∀ other, Json.string other ∈ before → other = "null")

/-- The schema states no type. -/
def Untyped (schema : Json) : Prop := ∀ type, ¬ States schema type

/-- The schema is that of an object, by its type or by its properties. -/
inductive ObjectLike (schema : Json) : Prop
  | typed (type : States schema "object")
  | untyped (type : Untyped schema) (properties : (schema.get? "properties").isSome)

/-- The schema is that of an array, by its type or by its items. -/
inductive ArrayLike (schema : Json) : Prop
  | typed (type : States schema "array")
  | untyped (type : Untyped schema) (properties : schema.get? "properties" = none)
      (items : (schema.get? "items").isSome)

/-- What a schema describes that lists no options. A schema that is neither that of an object or an
array nor that of a number or a truth value is that of a text. -/
inductive DescribesUnlisted (schema : Json) : Form → Prop
  | object (like : ObjectLike schema) : DescribesUnlisted schema .object
  | objects {inner : Json} (array : ArrayLike schema) (items : schema.get? "items" = some inner)
      (like : ObjectLike inner) : DescribesUnlisted schema (.objects inner)
  | values (array : ArrayLike schema)
      (items : ∀ inner, schema.get? "items" = some inner → ¬ ObjectLike inner) :
      DescribesUnlisted schema .values
  | number (type : States schema "integer" ∨ States schema "number") :
      DescribesUnlisted schema (.leaf .number none)
  | boolean (type : States schema "boolean") : DescribesUnlisted schema (.leaf .boolean none)
  | string (object : ¬ ObjectLike schema) (array : ¬ ArrayLike schema)
      (type : ∀ type, States schema type → type ∉ ["integer", "number", "boolean"]) :
      DescribesUnlisted schema (.leaf .string none)

/-- What a schema describes. -/
inductive Describes (schema : Json) : Form → Prop
  | choice {options : List String} (listed : ListsOptions schema options) :
      Describes schema (.leaf .choice (some options))
  | unlisted {form : Form} (unlisted : ∀ options, ¬ ListsOptions schema options)
      (describes : DescribesUnlisted schema form) : Describes schema form

variable {schema : Json}

theorem mapM_string?_eq_some {items : List Json} {texts : List String} :
    items.mapM Json.string? = some texts ↔ items = texts.map .string := by
  induction items generalizing texts with
  | nil => cases texts <;> simp
  | cons v rest ih =>
      rw [List.mapM_cons]
      cases v with
      | string s =>
          cases hrest : rest.mapM Json.string? <;> cases texts <;>
            simp_all [Json.string?]
      | _ => cases texts <;> simp [Json.string?]

/-- A schema lists options if its `enum` has items and all of them are strings. -/
theorem options?_eq_some {schema : Json} {options : List String} :
    options? schema = some options ↔
      schema.itemsAt "enum" = options.map .string ∧ options ≠ [] := by
  have hnone (h : [] = options.map Json.string ∧ options ≠ []) : False :=
    h.2 (List.map_eq_nil_iff.mp h.1.symm)
  unfold options? Json.itemsAt
  cases (schema.get? "enum").bind Json.items? with
  | none => exact ⟨nofun, fun h => (hnone h).elim⟩
  | some items =>
      cases items with
      | nil => exact ⟨nofun, fun h => (hnone h).elim⟩
      | cons v rest =>
          refine mapM_string?_eq_some.trans (iff_self_and.mpr ?_)
          rintro h rfl
          contradiction

theorem options?_eq_none_iff :
    options? schema = none ↔ ∀ options, ¬ ListsOptions schema options := by
  rw [Option.eq_none_iff_forall_ne_some]
  exact forall_congr' fun options => not_congr options?_eq_some

section Types

variable {type : String}

/-- The first text but `null` among items has only other values and `null` before it. -/
theorem find?_texts_eq_some_iff {types : List Json} :
    (types.filterMap Json.string?).find? (· != "null") = some type ↔
      type ≠ "null" ∧ ∃ before after, types = before ++ .string type :: after ∧
        ∀ other, Json.string other ∈ before → other = "null" := by
  rw [List.find?_eq_some_iff_append, bne_iff_ne]
  refine and_congr_right fun hknown => ?_
  constructor
  · rintro ⟨texts, texts', htexts, hnull⟩
    obtain ⟨before, rest, rfl, rfl, hrest⟩ := List.filterMap_eq_append_iff.mp htexts
    obtain ⟨others, v, after, rfl, hothers, htype, -⟩ := List.filterMap_eq_cons_iff.mp hrest
    obtain rfl := Json.string?_eq_some_iff.mp htype
    refine ⟨before ++ others, after, (List.append_assoc ..).symm, ?_⟩
    intro other hother
    rcases List.mem_append.mp hother with hother | hother
    · have htext : other ∈ before.filterMap Json.string? := List.mem_filterMap.mpr ⟨_, hother, rfl⟩
      simpa using hnull other htext
    · exact absurd (hothers _ hother) nofun
  · rintro ⟨before, after, rfl, hskipped⟩
    refine ⟨before.filterMap Json.string?, after.filterMap Json.string?, ?_, ?_⟩
    · rw [List.filterMap_append, List.filterMap_cons]
      rfl
    · intro other hother
      obtain ⟨v, hv, htext⟩ := List.mem_filterMap.mp hother
      obtain rfl := Json.string?_eq_some_iff.mp htext
      simp [hskipped other hv]

theorem statedType?_eq_some_iff : statedType? schema = some type ↔ States schema type := by
  constructor
  · intro h
    unfold statedType? at h
    split at h
    · rename_i text htext
      exact .alone (Option.some.inj h ▸ htext)
    · rename_i types htypes
      obtain ⟨hknown, before, after, rfl, hskipped⟩ := find?_texts_eq_some_iff.mp h
      exact .first before after htypes hknown hskipped
    · contradiction
  · intro h
    unfold statedType?
    cases h with
    | alone stated => rw [stated]
    | first before after stated known skipped =>
        rw [stated]
        exact find?_texts_eq_some_iff.mpr ⟨known, before, after, rfl, skipped⟩

theorem statedType?_eq_none_iff : statedType? schema = none ↔ Untyped schema := by
  rw [Option.eq_none_iff_forall_ne_some]
  exact forall_congr' fun type => not_congr statedType?_eq_some_iff

theorem States.unique {other : String} (h : States schema type) (h' : States schema other) :
    type = other := by
  apply Option.some.inj
  rw [← statedType?_eq_some_iff.mpr h, statedType?_eq_some_iff.mpr h']

theorem States.objectLike_iff (h : States schema type) :
    ObjectLike schema ↔ type = "object" := by
  constructor
  · rintro (htyped | ⟨huntyped, -⟩)
    · exact h.unique htyped
    · exact absurd h (huntyped type)
  · rintro rfl
    exact .typed h

theorem States.arrayLike_iff (h : States schema type) : ArrayLike schema ↔ type = "array" := by
  constructor
  · rintro (htyped | ⟨huntyped, -, -⟩)
    · exact h.unique htyped
    · exact absurd h (huntyped type)
  · rintro rfl
    exact .typed h

theorem Untyped.objectLike_iff (h : Untyped schema) :
    ObjectLike schema ↔ (schema.get? "properties").isSome := by
  constructor
  · rintro (htyped | ⟨-, hproperties⟩)
    · exact absurd htyped (h _)
    · exact hproperties
  · exact .untyped h

theorem Untyped.arrayLike_iff (h : Untyped schema) :
    ArrayLike schema ↔ schema.get? "properties" = none ∧ (schema.get? "items").isSome := by
  constructor
  · rintro (htyped | ⟨-, hproperties, hitems⟩)
    · exact absurd htyped (h _)
    · exact ⟨hproperties, hitems⟩
  · rintro ⟨hproperties, hitems⟩
    exact .untyped h hproperties hitems

theorem isObjectLike_iff : isObjectLike schema = true ↔ ObjectLike schema := by
  unfold isObjectLike
  cases htype : statedType? schema with
  | some type => rw [(statedType?_eq_some_iff.mp htype).objectLike_iff, beq_iff_eq]
  | none => rw [(statedType?_eq_none_iff.mp htype).objectLike_iff]

end Types

/-- An array schema describes objects if its items are those of objects, and values otherwise. -/
theorem describes_arrayForm (h : ArrayLike schema) :
    DescribesUnlisted schema (arrayForm schema) := by
  unfold arrayForm
  cases hitems : schema.get? "items" with
  | none =>
      refine .values h ?_
      intro inner hinner
      rw [hitems] at hinner
      contradiction
  | some inner =>
      dsimp only
      split
      · rename_i hlike
        exact .objects h hitems (isObjectLike_iff.mp hlike)
      · rename_i hlike
        refine .values h ?_
        intro other hother
        rw [hitems] at hother
        rwa [← Option.some.inj hother, ← isObjectLike_iff]

/-- Every schema describes its form. -/
theorem describes_form (schema : Json) : Describes schema (form schema) := by
  unfold form
  split
  · rename_i options hoptions
    exact .choice (options?_eq_some.mp hoptions)
  · rename_i hnone
    apply Describes.unlisted (options?_eq_none_iff.mp hnone)
    split
    · rename_i htype
      exact .object (.typed (statedType?_eq_some_iff.mp htype))
    · rename_i htype
      exact describes_arrayForm (.typed (statedType?_eq_some_iff.mp htype))
    · rename_i htype
      exact .number (.inl (statedType?_eq_some_iff.mp htype))
    · rename_i htype
      exact .number (.inr (statedType?_eq_some_iff.mp htype))
    · rename_i htype
      exact .boolean (statedType?_eq_some_iff.mp htype)
    · rename_i type hobject harray hinteger hnumber hboolean htype
      have hstates := statedType?_eq_some_iff.mp htype
      refine .string (mt hstates.objectLike_iff.mp hobject) (mt hstates.arrayLike_iff.mp harray) ?_
      intro other hother
      obtain rfl := hstates.unique hother
      simpa using ⟨hinteger, hnumber, hboolean⟩
    · rename_i htype
      have huntyped := statedType?_eq_none_iff.mp htype
      split
      · rename_i hproperties
        exact .object (huntyped.objectLike_iff.mpr hproperties)
      · rename_i hproperties
        split
        · rename_i hitems
          have hnone := Option.not_isSome_iff_eq_none.mp hproperties
          exact describes_arrayForm (huntyped.arrayLike_iff.mpr ⟨hnone, hitems⟩)
        · rename_i hitems
          refine .string (mt huntyped.objectLike_iff.mp hproperties) ?_ ?_
          · exact fun harray => hitems (huntyped.arrayLike_iff.mp harray).2
          · exact fun type htype => absurd htype (huntyped type)

section Unlisted

variable (hnone : options? schema = none)
include hnone

theorem form_eq_object (h : ObjectLike schema) : form schema = .object := by
  unfold form
  rw [hnone]
  cases h with
  | typed type =>
      rw [statedType?_eq_some_iff.mpr type]
      rfl
  | untyped type properties =>
      rw [statedType?_eq_none_iff.mpr type]
      exact if_pos properties

theorem form_eq_arrayForm (h : ArrayLike schema) : form schema = arrayForm schema := by
  unfold form
  rw [hnone]
  cases h with
  | typed type =>
      rw [statedType?_eq_some_iff.mpr type]
      rfl
  | untyped type properties items =>
      rw [statedType?_eq_none_iff.mpr type, properties]
      exact if_pos items

theorem DescribesUnlisted.form_eq {f : Form} (h : DescribesUnlisted schema f) :
    form schema = f := by
  cases h with
  | object like => exact form_eq_object hnone like
  | objects array items like =>
      rw [form_eq_arrayForm hnone array, arrayForm, items]
      exact if_pos (isObjectLike_iff.mpr like)
  | values array items =>
      rw [form_eq_arrayForm hnone array, arrayForm]
      split
      · rename_i inner hinner
        exact if_neg (mt isObjectLike_iff.mp (items inner hinner))
      · rfl
  | number type =>
      unfold form
      rw [hnone]
      rcases type with type | type
      · rw [statedType?_eq_some_iff.mpr type]
        rfl
      · rw [statedType?_eq_some_iff.mpr type]
        rfl
  | boolean type =>
      unfold form
      rw [hnone, statedType?_eq_some_iff.mpr type]
      rfl
  | string object array type =>
      -- No other form fits what its form is described to be.
      have hdescribes := describes_form schema
      generalize form schema = f at hdescribes
      cases hdescribes with
      | choice listed => exact absurd listed (options?_eq_none_iff.mp hnone _)
      | unlisted _ hdescribes =>
          cases hdescribes with
          | object like => exact absurd like object
          | objects like => exact absurd like array
          | values like => exact absurd like array
          | number stated =>
              rcases stated with stated | stated
              · exact absurd List.mem_cons_self (type _ stated)
              · exact absurd (by decide) (type _ stated)
          | boolean stated => exact absurd (by decide) (type _ stated)
          | string => rfl

end Unlisted

/-- A schema describes its form and no other. -/
theorem describes_iff {f : Form} : Describes schema f ↔ form schema = f := by
  constructor
  · rintro (listed | ⟨unlisted, describes⟩)
    · rw [form, options?_eq_some.mpr listed]
    · exact describes.form_eq (options?_eq_none_iff.mpr unlisted)
  · rintro rfl
    exact describes_form schema

end Schema

end ApiScreens
