import ApiScreens.Json.Basic

/-!
# Fields of schemas

What screens know about a field: its path through the schema, its type, whether it is required, and
the options of a choice. A field map keeps one entry for each path under that path, in the order in
which the paths were first seen.
-/

namespace ApiScreens

/-- The types of fields. -/
inductive FieldType where
  | string
  | number
  | boolean
  | choice
deriving DecidableEq

namespace FieldType

/-- All types. -/
def all : List FieldType := [string, number, boolean, choice]

/-- The name of a type. -/
def name : FieldType → String
  | string => "string"
  | number => "number"
  | boolean => "boolean"
  | choice => "enum"

/-- Whether a list can be filtered by fields of the type. -/
def isFilterable : FieldType → Bool
  | string | number | choice => true
  | boolean => false

end FieldType

/-- What is known about the field at a path. -/
structure FieldInfo where
  path : String
  type : FieldType
  required : Bool
  options : Option (List String)
deriving DecidableEq

/-- An entry of a field map: what is known about a field, under a key. -/
structure FieldEntry extends FieldInfo where
  key : String
deriving DecidableEq

/-- Fields with one entry for each path. -/
abbrev FieldMap := List FieldEntry

namespace FieldMap

/-- What is known under a path. -/
def get? (fields : FieldMap) (path : String) : Option FieldInfo :=
  (fields.find? (·.key == path)).map (·.toFieldInfo)

/-- Whether a path has an entry. -/
def has (fields : FieldMap) (path : String) : Bool := fields.any (·.key == path)

/-- Adds an occurrence of a field under its path. A path that is known keeps its entry, which
becomes required if the occurrence is. -/
def add : FieldMap → FieldInfo → FieldMap
  | [], info => [⟨info, info.path⟩]
  | known :: rest, info =>
    if known.key = info.path then
      { known with required := known.required || info.required } :: rest
    else known :: add rest info

end FieldMap

end ApiScreens
