import ApiScreens.Diagnostic
import ApiScreens.Schema.Field

/-!
# Screens

The specification of a resource's screens: its fields, the columns of its table, the fields of its
form, those that its list can be filtered by, and the field that identifies an item. A
specification is valid if it has a field, names no field that it does not have, and gives every
choice some options.
-/

namespace ApiScreens

/-- A field of a screen. -/
structure ScreenField where
  name : String
  label : String
  type : FieldType
  required : Bool
  options : Option (List String)
  readOnly : Option Bool
deriving DecidableEq

/-- The screens of a resource. -/
structure ScreenSpec where
  entity : String
  fields : List ScreenField
  columns : List String
  formFields : List String
  filters : List String
  idField : Option String
deriving DecidableEq

/-- Why screens are not valid, or cannot be made from a plan. -/
inductive ScreenError where
  | noResource (name : String)
  | noFields (entity : String)
  | unknownField (entity area name : String)
  | noOptions (entity name : String)
deriving DecidableEq

namespace ScreenError

/-- What a message says about the cause. -/
def message : ScreenError → String
  | noResource name => s!"plan resource '{name}' matches no ApiIR resource"
  | noFields entity => s!"{entity}: no usable fields"
  | unknownField entity area name => s!"{entity}: {area} references unknown field '{name}'"
  | noOptions entity name => s!"{entity}: enum field '{name}' has no options"

/-- The fault that is reported. -/
def diagnostic (e : ScreenError) : Diagnostic :=
  let d := Diagnostic.screenInvalid e.message
  match e with
  | noResource _ | noFields _ => d
  | unknownField _ _ name | noOptions _ name => d.located name

end ScreenError

namespace ScreenField

/-- The JSON form of a field. -/
def toJson (f : ScreenField) : Json :=
  .object ([("name", .string f.name), ("label", .string f.label),
      ("type", .string f.type.name), ("required", .bool f.required)] ++
    Json.memberOf? "options" (f.options.map Json.ofStrings) ++
    Json.memberOf? "readOnly" (f.readOnly.map .bool))

/-- The declaration of a field's JSON form. -/
def shape : Json.RecordShape :=
  ⟨"ScreenField", [⟨"name", true⟩, ⟨"label", true⟩, ⟨"type", true⟩, ⟨"required", true⟩,
    ⟨"options", false⟩, ⟨"readOnly", false⟩], false⟩

/-- Reads a member of a field. -/
def put (key : String) (v : Json) (f : ScreenField) : Except Json.Mismatch ScreenField :=
  match key with
  | "name" => do return { f with name := ← Json.readText v }
  | "label" => do return { f with label := ← Json.readText v }
  | "type" => do
    return { f with type := ← Json.readName (FieldType.all.map fun t => (t.name, t)) v }
  | "required" => do return { f with required := ← Json.readBool v }
  | "options" => do
    return { f with options := ← Json.readOptional (Json.readList Json.readText) v }
  | _ => do return { f with readOnly := ← Json.readOptional Json.readBool v }

/-- Reads a field. -/
def read : Json.Reads ScreenField := shape.read put ⟨"", "", .string, false, none, none⟩

/-- Whether the field is a choice without options. -/
def lacksOptions (f : ScreenField) : Bool :=
  f.type == .choice && f.options.all (·.isEmpty)

end ScreenField

namespace ScreenSpec

/-- The field with a name. -/
def field? (s : ScreenSpec) (name : String) : Option ScreenField :=
  s.fields.find? (·.name == name)

/-- The lists that name fields, with what messages call them. -/
def areas (s : ScreenSpec) : List (String × List String) :=
  [("table.columns", s.columns), ("form.fields", s.formFields), ("filters", s.filters)]

/-- The first name in an area that no field has. -/
def unknownIn? (s : ScreenSpec) (area : String × List String) : Option ScreenError :=
  (area.2.find? fun name => (s.field? name).isNone).map (.unknownField s.entity area.1)

/-- The first reason why screens are not valid. -/
def error? (s : ScreenSpec) : Option ScreenError :=
  if s.fields.isEmpty then some (.noFields s.entity)
  else (s.areas.findSome? s.unknownIn?) <|>
    ((s.fields.find? (·.lacksOptions)).map fun f => .noOptions s.entity f.name)

/-- The specification if it is valid. -/
def validated (s : ScreenSpec) : Except ScreenError ScreenSpec :=
  match s.error? with
  | some e => .error e
  | none => .ok s

/-- The JSON form of screens. -/
def toJson (s : ScreenSpec) : Json :=
  .object ([("entity", .string s.entity), ("fields", .array (s.fields.map ScreenField.toJson)),
      ("table", .object [("columns", Json.ofStrings s.columns)]),
      ("form", .object [("fields", Json.ofStrings s.formFields)]),
      ("filters", Json.ofStrings s.filters)] ++
    Json.memberOf? "idField" (s.idField.map .string))

/-- Reads a record whose only field is a list of names. -/
def readNames (name key : String) : Json.Reads (List String) :=
  (⟨name, [⟨key, true⟩], false⟩ : Json.RecordShape).read
    (fun _ v _ => Json.readList Json.readText v) []

/-- The declaration of the JSON form of screens. -/
def shape : Json.RecordShape :=
  ⟨"ScreenSpec", [⟨"entity", true⟩, ⟨"fields", true⟩, ⟨"table", true⟩, ⟨"form", true⟩,
    ⟨"filters", true⟩, ⟨"idField", false⟩], false⟩

/-- Reads a member of screens. -/
def put (key : String) (v : Json) (s : ScreenSpec) : Except Json.Mismatch ScreenSpec :=
  match key with
  | "entity" => do return { s with entity := ← Json.readText v }
  | "fields" => do return { s with fields := ← Json.readList ScreenField.read v }
  | "table" => do return { s with columns := ← readNames "Table" "columns" v }
  | "form" => do return { s with formFields := ← readNames "Form" "fields" v }
  | "filters" => do return { s with filters := ← Json.readList Json.readText v }
  | _ => do return { s with idField := ← Json.readOptional Json.readText v }

/-- Reads screens. -/
def read : Json.Reads ScreenSpec := shape.read put ⟨"", [], [], [], [], none⟩

end ScreenSpec

end ApiScreens
