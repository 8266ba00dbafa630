/-!
# Lists of keyed values

Values under text keys. Looking one up answers the first; lists built by `insert` and `sort` have
their keys ascending and each key once.
-/

namespace ApiScreens

/-- Values under keys. -/
abbrev Keyed (α : Type) := List (String × α)

namespace Keyed

variable {α : Type}

/-- The first value under a key. -/
def get? (entries : Keyed α) (key : String) : Option α :=
  (entries.find? (·.1 == key)).map (·.2)

/-- Whether there is a value under a key. -/
def has (entries : Keyed α) (key : String) : Bool :=
  entries.any (·.1 == key)

/-- Puts a value at the place of its key, over one that is there. -/
def insert (key : String) (value : α) : Keyed α → Keyed α
  | [] => [(key, value)]
  | (k, v) :: rest =>
    if key < k then (key, value) :: (k, v) :: rest
    else if key = k then (key, value) :: rest
    else (k, v) :: insert key value rest

/-- Sorts entries by key; of those with one key the last stays. -/
def sort (entries : Keyed α) : Keyed α :=
  entries.foldl (fun sorted e => insert e.1 e.2 sorted) []

theorem has_eq_isSome_get? (entries : Keyed α) (key : String) :
    entries.has key = (entries.get? key).isSome := by
  rw [Bool.eq_iff_iff]
  simp [has, get?]

end Keyed

end ApiScreens
