import ApiScreens.Schema.Field

/-!
# Flattening schemas

The fields of an object schema are the properties that hold a single value; those of nested objects
and of arrays of objects follow with the path to them in front. Arrays of single values have no
field.
-/

namespace ApiScreens.Schema

/-- What a schema describes, as far as fields are concerned. -/
inductive Form where
  | object
  | objects (items : Json)
  | values
  | leaf (type : FieldType) (options : Option (List String))

/-- The type that a schema states: a string, or the first string other than `null` in an array. -/
def statedType? (schema : Json) : Option String :=
  match schema.get? "type" with
  | some (.string s) => some s
  | some (.array types) => (types.filterMap Json.string?).find? (· != "null")
  | _ => none

/-- The options of a schema that lists some, all of them strings. -/
def options? (schema : Json) : Option (List String) := do
  let values ← (schema.get? "enum").bind Json.items?
  guard !values.isEmpty
  values.mapM Json.string?

/-- Whether a schema describes objects, by its type or by its properties. -/
def isObjectLike (schema : Json) : Bool :=
  match statedType? schema with
  | some type => type == "object"
  | none => (schema.get? "properties").isSome

/-- What an array schema describes. -/
def arrayForm (schema : Json) : Form :=
  match schema.get? "items" with
  | some items => if isObjectLike items then .objects items else .values
  | none => .values

/-- What a schema describes. -/
def form (schema : Json) : Form :=
  match options? schema with
  | some options => .leaf .choice (some options)
  | none =>
    match statedType? schema with
    | some "object" => .object
    | some "array" => arrayForm schema
    | some "integer" | some "number" => .leaf .number none
    | some "boolean" => .leaf .boolean none
    | some _ => .leaf .string none
    | none =>
      if (schema.get? "properties").isSome then .object
      else if (schema.get? "items").isSome then arrayForm schema
      else .leaf .string none

/-- The object schema that a schema contributes: itself, or that of an array's items. -/
def object? (schema : Json) : Option Json :=
  match form schema with
  | .object => some schema
  | .objects items => some items
  | _ => none

/-- The properties of a schema. -/
def properties (schema : Json) : Json.Members :=
  ((schema.get? "properties").bind Json.members?).getD []

/-- Whether the object schema of a schema has a property of its own with a name. -/
def declares (schema : Json) (name : String) : Bool :=
  (object? schema).any fun s => (properties s).has name

/-- The names that a schema requires. -/
def requiredNames (schema : Json) : List String :=
  (((schema.get? "required").bind Json.items?).getD []).filterMap Json.string?

/-- The path to a property of what lies at a path. -/
def pathTo (parent name : String) : String :=
  if parent.isEmpty then name else parent ++ "." ++ name

mutual

/-- The occurrences of fields in the object schema at a path. -/
def leaves (path : String) : Json → List FieldInfo
  | .object members => leavesUnder path (requiredNames (.object members)) members
  | _ => []

/-- The occurrences of fields in the properties among members. -/
def leavesUnder (path : String) (required : List String) : Json.Members → List FieldInfo
  | [] => []
  | (k, v) :: rest =>
    if k = "properties" then
      match v with
      | .object properties => leavesOfEach path required properties
      | _ => []
    else leavesUnder path required rest

/-- The occurrences of fields in properties. -/
def leavesOfEach (path : String) (required : List String) : Json.Members → List FieldInfo
  | [] => []
  | (name, schema) :: rest =>
    let here := pathTo path name
    (match form schema with
      | .object => leaves here schema
      | .objects _ => leavesOfItems here schema
      | .values => []
      | .leaf type options => [⟨here, type, required.contains name, options⟩]) ++
      leavesOfEach path required rest

/-- The occurrences of fields in the items of an array schema. -/
def leavesOfItems (path : String) : Json → List FieldInfo
  | .object members => leavesUnderItems path members
  | _ => []

/-- The occurrences of fields in the items among members. -/
def leavesUnderItems (path : String) : Json.Members → List FieldInfo
  | [] => []
  | (k, v) :: rest => if k = "items" then leaves path v else leavesUnderItems path rest

end

/-- The occurrences of fields in a schema. -/
def occurrences (schema : Json) : List FieldInfo :=
  ((object? schema).map (leaves "")).getD []

/-- Adds the fields of a schema to a field map. -/
def addTo (fields : FieldMap) (schema : Json) : FieldMap :=
  (occurrences schema).foldl FieldMap.add fields

end ApiScreens.Schema
