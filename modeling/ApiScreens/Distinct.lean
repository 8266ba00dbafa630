/-!
# First elements of each key

Going through a list once and keeping the first element of every key.
-/

namespace ApiScreens

/-- The elements whose keys are neither `seen` nor those of an element before them. -/
def distinctFrom [BEq κ] (key : α → κ) (seen : List κ) : List α → List α
  | [] => []
  | a :: rest =>
    if seen.contains (key a) then distinctFrom key seen rest
    else a :: distinctFrom key (key a :: seen) rest

/-- The first element of every key. -/
def distinctBy [BEq κ] (key : α → κ) (items : List α) : List α := distinctFrom key [] items

/-- The first occurrence of every element. -/
def distinct [BEq α] (items : List α) : List α := distinctBy id items

end ApiScreens
