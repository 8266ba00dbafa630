import ApiScreens.Json.Number
import ApiScreens.Keyed

/-!
# JSON values

A JSON value keeps the members of an object in the order in which they are written. Objects that
are read from a document, and all that is built by `ofMembers`, have their members sorted by key
and each key once.
-/

namespace ApiScreens

/-- A JSON value. -/
inductive Json where
  | null
  | bool (b : Bool)
  | number (n : Json.Number)
  | string (s : String)
  | array (items : List Json)
  | object (members : List (String × Json))

namespace Json

/-- The members of an object. -/
abbrev Members := Keyed Json

instance : Inhabited Json := ⟨null⟩

mutual

/-- Equality of values is decided part by part. -/
def decideEq : (a b : Json) → Decidable (a = b)
  | null, null => isTrue rfl
  | bool a, bool b => if h : a = b then isTrue (h ▸ rfl) else isFalse (by simpa using h)
  | number a, number b => if h : a = b then isTrue (h ▸ rfl) else isFalse (by simpa using h)
  | string a, string b => if h : a = b then isTrue (h ▸ rfl) else isFalse (by simpa using h)
  | array a, array b => match decideEqItems a b with
    | isTrue h => isTrue (h ▸ rfl)
    | isFalse h => isFalse (by simpa using h)
  | object a, object b => match decideEqMembers a b with
    | isTrue h => isTrue (h ▸ rfl)
    | isFalse h => isFalse (by simpa using h)
  | null, bool _ | null, number _ | null, string _ | null, array _ | null, object _
  | bool _, null | bool _, number _ | bool _, string _ | bool _, array _ | bool _, object _
  | number _, null | number _, bool _ | number _, string _ | number _, array _
  | number _, object _ | string _, null | string _, bool _ | string _, number _
  | string _, array _ | string _, object _ | array _, null | array _, bool _
  | array _, number _ | array _, string _ | array _, object _ | object _, null
  | object _, bool _ | object _, number _ | object _, string _ | object _, array _ =>
    isFalse nofun

/-- Equality of items is decided one by one. -/
def decideEqItems : (a b : List Json) → Decidable (a = b)
  | [], [] => isTrue rfl
  | [], _ :: _ => isFalse nofun
  | _ :: _, [] => isFalse nofun
  | a :: as, b :: bs => match decideEq a b, decideEqItems as bs with
    | isTrue h, isTrue hs => isTrue (h ▸ hs ▸ rfl)
    | isFalse h, _ => isFalse (by simp [h])
    | _, isFalse h => isFalse (by simp [h])

/-- Equality of members is decided one by one. -/
def decideEqMembers : (a b : List (String × Json)) → Decidable (a = b)
  | [], [] => isTrue rfl
  | [], _ :: _ => isFalse nofun
  | _ :: _, [] => isFalse nofun
  | (k, a) :: as, (l, b) :: bs =>
    match decEq k l, decideEq a b, decideEqMembers as bs with
    | isTrue hk, isTrue h, isTrue hs => isTrue (hk ▸ h ▸ hs ▸ rfl)
    | isFalse h, _, _ => isFalse (by simp [h])
    | _, isFalse h, _ => isFalse (by simp [h])
    | _, _, isFalse h => isFalse (by simp [h])

end

instance : DecidableEq Json := decideEq

/-- The object with these members, sorted by key; of those with one key the last stays. -/
def ofMembers (members : Members) : Json :=
  object (Keyed.sort members)

/-- A natural number below `2 ^ 64`. -/
def ofWord (n : UInt64) : Json := number (Number.ofWord n)

/-- An array of strings. -/
def ofStrings (texts : List String) : Json := array (texts.map string)

/-- A member whose value may be missing. -/
def memberOf? (key : String) (value : Option Json) : Members :=
  (value.map fun v => (key, v)).toList

/-- The members of an object. -/
def members? : Json → Option Members
  | object members => some members
  | _ => none

/-- The items of an array. -/
def items? : Json → Option (List Json)
  | array items => some items
  | _ => none

/-- The text of a string. -/
def string? : Json → Option String
  | string s => some s
  | _ => none

/-- The value of a key in an object; other values have none. -/
def get? (value : Json) (key : String) : Option Json :=
  value.members?.bind (·.get? key)

/-- Whether the value is an object. -/
def isObject (value : Json) : Bool := value.members?.isSome

mutual

/-- Sorts the members of every object in a value. -/
def sorted : Json → Json
  | array items => array (sortedItems items)
  | object members => ofMembers (sortedMembers members)
  | value => value

/-- Sorts inside every item. -/
def sortedItems : List Json → List Json
  | [] => []
  | v :: rest => v.sorted :: sortedItems rest

/-- Sorts inside every member. -/
def sortedMembers : Members → Members
  | [] => []
  | (k, v) :: rest => (k, v.sorted) :: sortedMembers rest

end

theorem sortedItems_eq_map (items : List Json) : sortedItems items = items.map sorted := by
  induction items with
  | nil => rfl
  | cons v rest ih => simp [sortedItems, ih]

theorem sortedMembers_eq_map (members : Members) :
    sortedMembers members = members.map fun m => (m.1, m.2.sorted) := by
  induction members with
  | nil => rfl
  | cons m rest ih => simp [sortedMembers, ih]

end Json

end ApiScreens
