import ApiScreens.Json.Basic
import ApiScreens.Text.Quoted

/-!
# Records in JSON values

A record is written as an object with its fields as members, or as an array with its fields in the
order of their declaration. Null stands for a missing value of an optional field. The first
mismatch that reading meets is answered: members are read in their order, and missing fields are
looked for afterwards.
-/

namespace ApiScreens.Json

/-- A field by its key; a record cannot do without a required one. -/
structure FieldShape where
  key : String
  required : Bool

/-- The declaration of a record; a closed one refuses keys that it does not declare. -/
structure RecordShape where
  name : String
  fields : List FieldShape
  closed : Bool

/-- Why a value is not what was expected. -/
inductive Mismatch where
  | wrongType (found : Json) (expected : String)
  | unknownField (key : String) (expected : List String)
  | missingField (key : String)
  | repeatedField (key : String)
  | tooFew (index : Nat) (record : String) (fields : Nat)
  | tooMany (length : Nat)
  | outOfRange (found : Json)
  | unknownName (found : Json)

/-- How a message names a value that was not expected. -/
def describe : Json → String
  | null => "null"
  | bool true => "boolean `true`"
  | bool false => "boolean `false`"
  | number (.int n h) => "integer `" ++ (Number.int n h).text ++ "`"
  | number (.double d h) => "floating point `" ++ (Number.double d h).text ++ "`"
  | string s => "string " ++ Text.quoted s
  | array _ => "sequence"
  | object _ => "map"

/-- A key between backquotes. -/
def backquoted (key : String) : String := "`" ++ key ++ "`"

/-- The keys that a message offers. -/
def offered : List String → String
  | [] => "there are no fields"
  | [a] => "expected " ++ backquoted a
  | [a, b] => "expected " ++ backquoted a ++ " or " ++ backquoted b
  | keys => "expected one of " ++ String.intercalate ", " (keys.map backquoted)

/-- What a message says about a mismatch. -/
def Mismatch.message : Mismatch → String
  | wrongType found expected => "invalid type: " ++ found.describe ++ ", expected " ++ expected
  | unknownField key expected => "unknown field " ++ backquoted key ++ ", " ++ offered expected
  | missingField key => "missing field " ++ backquoted key
  | repeatedField key => "duplicate field " ++ backquoted key
  | tooFew index record fields =>
    let noun := if fields = 1 then "element" else "elements"
    s!"invalid length {index}, expected struct {record} with {fields} {noun}"
  | tooMany length => s!"invalid length {length}, expected fewer elements in array"
  | outOfRange found => "invalid value: " ++ found.describe
  | unknownName found => "unknown variant: " ++ found.describe

/-- A reader of values of one type. -/
abbrev Reads (α : Type) := Json → Except Mismatch α

/-- Reads a string. -/
def readText : Reads String
  | string s => .ok s
  | v => .error (.wrongType v "a string")

/-- Reads a boolean. -/
def readBool : Reads Bool
  | bool b => .ok b
  | v => .error (.wrongType v "a boolean")

/-- Reads a number as the nearest double. -/
def readDouble : Reads Double
  | number n => .ok n.toDouble
  | v => .error (.wrongType v "f64")

/-- Reads a natural number below a limit. -/
def readNat (limit : Nat) : Reads Nat
  | number (.int n h) =>
    if 0 ≤ n ∧ n < limit then .ok n.toNat else .error (.outOfRange (number (.int n h)))
  | v => .error (.wrongType v "a natural number")

/-- Reads an unsigned 64-bit number. -/
def readWord : Reads UInt64 := fun v => (readNat UInt64.size v).map UInt64.ofNat

/-- Reads any value as it is. -/
def readAny : Reads Json := .ok

/-- Reads an array of values of one type. -/
def readList (read : Reads α) : Reads (List α)
  | array items => items.mapM read
  | v => .error (.wrongType v "a sequence")

/-- Reads null as a missing value. -/
def readOptional (read : Reads α) : Reads (Option α)
  | null => .ok none
  | v => (read v).map some

/-- Reads one of several names, written as a string or as the key of a member with the value
null. -/
def readName (names : List (String × α)) : Reads α := fun v =>
  let named := match v with
    | string s => some s
    | object [(key, null)] => some key
    | _ => none
  match named.bind fun s => (names.find? (·.1 == s)).map (·.2) with
  | some a => .ok a
  | none => .error (.unknownName v)

namespace RecordShape

/-- The keys of the fields. -/
def keys (shape : RecordShape) : List String := shape.fields.map (·.key)

/-- Reads one member into a record. -/
def putMember (shape : RecordShape) (put : String → Json → α → Except Mismatch α)
    (r : α) (m : String × Json) : Except Mismatch α :=
  if shape.keys.contains m.1 then put m.1 m.2 r
  else if shape.closed then .error (.unknownField m.1 shape.keys)
  else .ok r

/-- Reads a record; `put` reads the value of a declared key into it, and `start` is the record
before any has been read. -/
def read (shape : RecordShape) (put : String → Json → α → Except Mismatch α) (start : α) :
    Reads α
  | object members => do
    let r ← members.foldlM (shape.putMember put) start
    match shape.fields.find? fun f => f.required && !Keyed.has members f.key with
    | some f => .error (.missingField f.key)
    | none => .ok r
  | array items => do
    let r ← (shape.keys.zip items).foldlM (fun r m => put m.1 m.2 r) start
    match (shape.fields.zipIdx.drop items.length).find? (·.1.required) with
    | some (_, index) => .error (.tooFew index shape.name shape.fields.length)
    | none =>
      if shape.fields.length < items.length then .error (.tooMany items.length) else .ok r
  | v => .error (.wrongType v ("struct " ++ shape.name))

/-- The first declared key that is there more than once. -/
def repeated? (shape : RecordShape) (members : Members) : Option String :=
  shape.keys.find? fun key => 1 < members.countP (·.1 == key)

/-- Reads a record that has every declared key once at most. -/
def readOnce (shape : RecordShape) (put : String → Json → α → Except Mismatch α) (start : α) :
    Reads α := fun v =>
  match v.members?.bind shape.repeated? with
  | some key => .error (.repeatedField key)
  | none => shape.read put start v

end RecordShape

end ApiScreens.Json
