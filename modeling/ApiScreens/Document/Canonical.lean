import ApiScreens.Digest.Sha256
import ApiScreens.Json.Printer
import ApiScreens.Text.Natural

/-!
# Canonical form and content hash of documents

The canonical form of a document leaves out the texts that carry no meaning and sorts the arrays
whose order carries none: arrays of objects that all have a name, and arrays of strings and
numbers. The content hash is taken from the compact text of this form.
-/

namespace ApiScreens.Canonical

/-- The keys whose members carry no meaning. -/
def silentKeys : List String := ["description", "example", "summary"]

/-- Whether the items are objects that all have the member `name`. -/
def isNamed (items : List Json) : Bool :=
  !items.isEmpty && items.all fun item => (item.get? "name").isSome

/-- Whether the value is a string or a number. -/
def isPlain : Json → Bool
  | .string _ | .number _ => true
  | _ => false

/-- The text by which a named object sorts: its name, or the canonical text of a name that is no
string. -/
def sortName (item : Json) : String :=
  match item.get? "name" with
  | some (.string s) => s
  | some other => other.canonicalText
  | none => ""

/-- Named objects sort by name in natural order, then by their canonical text. -/
def namedOrder (a b : Json) : Ordering :=
  (Text.naturalOrder (sortName a) (sortName b)).then (compare a.canonicalText b.canonicalText)

/-- Numbers sort before strings, numbers by their nearest doubles and then by their text, strings
in natural order. -/
def plainOrder (a b : Json) : Ordering :=
  match a, b with
  | .number x, .number y =>
    (Double.totalOrder x.toDouble y.toDouble).then (compare x.text y.text)
  | .string x, .string y => Text.naturalOrder x y
  | .number _, _ => .lt
  | _, .number _ => .gt
  | a, b => compare a.canonicalText b.canonicalText

/-- Sorts a list stably by an order. -/
def sortBy (order : Json → Json → Ordering) (items : List Json) : List Json :=
  items.mergeSort fun a b => order a b != .gt

/-- The items in the order that the canonical form gives them. -/
def arrange (items : List Json) : List Json :=
  if isNamed items then sortBy namedOrder items
  else if items.all isPlain then sortBy plainOrder items
  else items

mutual

/-- The canonical form of a value. -/
def canonicalize : Json → Json
  | .array items => .array (arrange (canonicalizeItems items))
  | .object members => .object (canonicalizeMembers members)
  | value => value

/-- The canonical forms of items. -/
def canonicalizeItems : List Json → List Json
  | [] => []
  | v :: rest => canonicalize v :: canonicalizeItems rest

/-- The canonical forms of the members that carry meaning. -/
def canonicalizeMembers : Json.Members → Json.Members
  | [] => []
  | (k, v) :: rest =>
    if k ∈ silentKeys then canonicalizeMembers rest
    else (k, canonicalize v) :: canonicalizeMembers rest

end

theorem canonicalizeItems_eq_map (items : List Json) :
    canonicalizeItems items = items.map canonicalize := by
  induction items with
  | nil => rfl
  | cons v rest ih => simp [canonicalizeItems, ih]

theorem canonicalizeMembers_eq (members : Json.Members) :
    canonicalizeMembers members =
      (members.filter fun m => m.1 ∉ silentKeys).map fun m => (m.1, canonicalize m.2) := by
  induction members with
  | nil => rfl
  | cons m rest ih =>
    by_cases h : m.1 ∈ silentKeys <;> simp [canonicalizeMembers, h, ih]

/-- The canonical text of a document. -/
def text (value : Json) : String := (canonicalize value).canonicalText

/-- The hash by which a document is known. -/
def contentHash (value : Json) : String := Sha256.hexOfText (text value)

/-- The hash of a value with nothing left out or sorted but the members. -/
def stableHash (value : Json) : String := Sha256.hexOfText value.canonicalText

/-- The length of the identifier of a compilation. -/
def idLength : Nat := 12

/-- The first characters of a text. -/
def firstChars (n : Nat) (s : String) : String := String.ofList (s.toList.take n)

/-- The identifier of a compilation: the start of the document's hash, or of the hash of that
hash and a session token. -/
def compileId (hash : String) (token : Option String) : String :=
  match token with
  | some token => firstChars idLength (Sha256.hexOfText (hash ++ token))
  | none => firstChars idLength hash

end ApiScreens.Canonical
