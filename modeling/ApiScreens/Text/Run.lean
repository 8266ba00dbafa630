/-!
# Runs of characters

Character properties and case mappings are given by runs: code points from a first to a last one
at a constant distance.
-/

namespace ApiScreens.Text

/-- The code points `first`, `first + step`, and so on up to `last`. -/
structure Run where
  first : Nat
  last : Nat
  step : Nat

/-- A run of code points that all map to the code point `distance` further on. -/
structure Shift where
  run : Run
  distance : Int

namespace Run

/-- Whether the run holds a code point. -/
def holds (r : Run) (n : Nat) : Bool :=
  r.first ≤ n && n ≤ r.last && (n - r.first) % r.step == 0

/-- Whether one of the runs holds the character. -/
def anyHolds (rs : List Run) (c : Char) : Bool :=
  rs.any (·.holds c.toNat)

end Run

/-- Where the first run that holds the character sends it. -/
def Shift.target? (shifts : List Shift) (c : Char) : Option Char :=
  (shifts.find? (·.run.holds c.toNat)).map fun s =>
    Char.ofNat (Int.ofNat c.toNat + s.distance).toNat

end ApiScreens.Text
