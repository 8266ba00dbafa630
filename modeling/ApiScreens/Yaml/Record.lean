import ApiScreens.Yaml.Node
import ApiScreens.Yaml.Resolved

/-!
# Records in YAML documents

Reading the nodes of a document as values of known types. A text is any scalar as it is written; a
number is a plain scalar; a record is a mapping whose other keys are not looked at, and an empty
place stands for a record in which every field keeps its default.
-/

namespace ApiScreens.Yaml

/-- A reader of nodes of a document. -/
abbrev Reads (α : Type) := Document → Node → Option α

namespace Node

/-- Whether nothing is written in the place of a node. -/
def isEmptyPlace : Node → Bool
  | scalar _ .plain text => text.isEmpty
  | _ => false

/-- Reads a scalar as it is written. -/
def readText : Reads String := fun d n =>
  match d.follow? n with
  | some (scalar _ _ text) => some text
  | _ => none

/-- Whether a scalar may be a number: it is plain, or a literal that is tagged as an integer. -/
def mayBeNumber (p : Properties) (style : ScalarStyle) : Bool :=
  match style with
  | .plain => true
  | .literal => p.tag == some (.standard "int")
  | .quoted | .folded => false

/-- Reads a natural number below a limit. -/
def readNat (limit : Nat) : Reads Nat := fun d n =>
  match d.follow? n with
  | some (scalar p style text) => do
    guard (mayBeNumber p style)
    let value ← Scalar.unsigned? text.toList
    guard (value < limit)
    return value
  | _ => none

/-- Whether a node stands for a missing value; a scalar that is tagged as null must be one. -/
def isMissing? : Node → Option Bool
  | scalar p .plain text =>
    let null := Scalar.isNull text.toList
    if p.tag = some (.standard "null") then (if null then some true else none)
    else some (p.tag.isNone && (text.isEmpty || null))
  | _ => some false

/-- Reads a value that may be missing. -/
def readOptional (read : Reads α) : Reads (Option α) := fun d n => do
  let n ← d.follow? n
  if ← isMissing? n then return none else (read d n).map some

/-- Reads a list; an empty place is a list without items. -/
def readList (read : Reads α) : Reads (List α) := fun d n =>
  match d.follow? n with
  | some (sequence _ items) => items.mapM (read d)
  | some n => if n.isEmptyPlace then some [] else none
  | none => none

/-- The name that a node gives: its local tag, if nothing or null follows it, or its text. -/
def nameOf? (d : Document) (n : Node) : Option String :=
  match d.follow? n with
  | some (scalar p style text) =>
    match p.tag.bind Tag.name? with
    | some name =>
      if style = .plain ∧ (text.isEmpty ∨ Scalar.isNull text.toList) then some name else none
    | none => some text
  | _ => none

/-- Reads one of several names. -/
def readName (names : List (String × α)) : Reads α := fun d n => do
  let name ← nameOf? d n
  (names.find? (·.1 == name)).map (·.2)

/-- Reads one entry of a record, with the keys that have been read. -/
def readEntry (keys : List String) (put : String → Document → Node → α → Option α) (d : Document)
    (read : List String × α) (entry : Node × Node) : Option (List String × α) := do
  let key ← readText d entry.1
  if key ∈ keys then
    guard (key ∉ read.1)
    return (key :: read.1, ← put key d entry.2 read.2)
  else return read

/-- Reads a record; `put` reads the value of a key into it, and `start` has the defaults. -/
def readRecord (keys : List String) (put : String → Document → Node → α → Option α) (start : α) :
    Reads α := fun d n =>
  match d.follow? n with
  | some (mapping _ entries) => (entries.foldlM (readEntry keys put d) ([], start)).map (·.2)
  | some n => if n.isEmptyPlace then some start else none
  | none => none

end Node

end ApiScreens.Yaml
