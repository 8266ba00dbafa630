/-!
# Points in time

A point in time is counted in milliseconds from the start of 1970. Its text names the day of the
Gregorian calendar, which repeats after 400 years, and the time of the day in UTC.
-/

namespace ApiScreens

/-- A point in time in milliseconds. -/
structure Timestamp where
  millis : Int
deriving DecidableEq

/-- A day of the calendar. -/
structure CalendarDay where
  year : Int
  month : Nat
  day : Nat
deriving DecidableEq

namespace CalendarDay

/-- The days of 400 years. -/
def cycle : Nat := 146097

/-- The days from the first of March of the year 0 to the start of 1970. -/
def epoch : Nat := 719468

/-- The day that lies so many days after the first of March that starts a cycle, with the year
and the month counted from there. -/
def inCycle (n : Nat) : Nat × Nat × Nat :=
  let year := (n - n / 1460 + n / 36524 - n / 146096) / 365
  let ofYear := n - (365 * year + year / 4 - year / 100)
  let month := (5 * ofYear + 2) / 153
  (year, month, ofYear - (153 * month + 2) / 5 + 1)

/-- The day that lies so many days after the start of 1970. -/
def ofDays (days : Int) : CalendarDay :=
  let shifted := days + epoch
  let (year, month, day) := inCycle (shifted % cycle).toNat
  let start := shifted / cycle * 400 + year
  if month < 10 then ⟨start, month + 3, day⟩ else ⟨start + 1, month - 9, day⟩

end CalendarDay

namespace Timestamp

/-- The milliseconds of a day. -/
def dayMillis : Nat := 86400000

/-- The point in time that lies so many milliseconds later. -/
def plus (t : Timestamp) (millis : Int) : Timestamp := ⟨t.millis + millis⟩

/-- The milliseconds from one point in time to another, none if that is earlier. -/
def elapsed (start finish : Timestamp) : Nat := (finish.millis - start.millis).toNat

/-- Decimal digits, filled up with zeros in front. -/
def padded (width n : Nat) : String :=
  let digits := Nat.toDigits 10 n
  String.ofList (List.replicate (width - digits.length) '0' ++ digits)

/-- A year; those that do not have four digits have a sign. -/
def yearText (year : Int) : String :=
  if 9999 < year then "+" ++ padded 4 year.toNat
  else if year < 0 then "-" ++ padded 4 year.natAbs
  else padded 4 year.toNat

/-- The day and the time of the day in UTC. -/
def text (t : Timestamp) : String :=
  let date := CalendarDay.ofDays (t.millis / dayMillis)
  let rest := (t.millis % dayMillis).toNat
  yearText date.year ++ "-" ++ padded 2 date.month ++ "-" ++ padded 2 date.day ++ "T" ++
    padded 2 (rest / 3600000) ++ ":" ++ padded 2 (rest / 60000 % 60) ++ ":" ++
    padded 2 (rest / 1000 % 60) ++ "." ++ padded 3 (rest % 1000) ++ "Z"

/-- The points in time that the calendar reaches: the years from -262143 to 262142. -/
def inRange (t : Timestamp) : Bool :=
  let year := (CalendarDay.ofDays (t.millis / dayMillis)).year
  decide (-262143 ≤ year ∧ year ≤ 262142)

end Timestamp

end ApiScreens
