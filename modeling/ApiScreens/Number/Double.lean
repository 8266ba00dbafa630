/-!
# Double-precision numbers

A binary floating-point number of 64 bits, kept as its sign and the 63 bits below it. Read as a
whole number these bits grow with the absolute value, so rounding, the total order and the tests
for special values are arithmetic on natural numbers.
-/

namespace ApiScreens

/-- A double by its sign and its 63 lower bits: 11 of exponent above 52 of fraction. -/
structure Double where
  negative : Bool
  magnitude : Nat
  magnitude_lt : magnitude < 0x8000000000000000
deriving DecidableEq

namespace Double

/-- The number of fractions that share an exponent. -/
def fractions : Nat := 0x10000000000000

/-- The magnitude of infinity, above that of every finite double. -/
def infinity : Nat := 2047 * fractions

/-- Whether the double is a number. -/
def isFinite (d : Double) : Bool := d.magnitude < infinity

/-- Whether the double is not a number and no infinity. -/
def isNaN (d : Double) : Bool := infinity < d.magnitude

/-- Zero with a sign. -/
def zero (negative : Bool) : Double := ⟨negative, 0, by decide⟩

/-- Infinity with a sign. -/
def infinite (negative : Bool) : Double := ⟨negative, infinity, by decide⟩

/-- The positive quiet value that is not a number. -/
def nan : Double := ⟨false, infinity + fractions / 2, by decide⟩

/-- The whole number that scaled by `2 ^ scale` gives the absolute value. -/
def significand (d : Double) : Nat :=
  if d.magnitude < fractions then d.magnitude else d.magnitude % fractions + fractions

/-- The power of two of the significand's unit. -/
def scale (d : Double) : Int :=
  max 1 (d.magnitude / fractions : Nat) - 1075

/-- The absolute value of a finite double as a fraction. -/
def ratio (d : Double) : Nat × Nat :=
  (d.significand <<< d.scale.toNat, 1 <<< (-d.scale).toNat)

/-- The quotient rounded to the nearest whole number, a half going to the even one. -/
def roundQuotient (num den : Nat) : Nat :=
  let q := num / den
  let twice := 2 * (num % den)
  if twice < den then q
  else if den < twice then q + 1
  else q + q % 2

/-- The whole part of the binary logarithm of a positive fraction. -/
def log2Ratio (num den : Nat) : Int :=
  let guess : Int := num.log2 - den.log2
  if num <<< (-guess).toNat < den <<< guess.toNat then guess - 1 else guess

/-- The magnitude nearest to a fraction, before infinity cuts it off. -/
def nearestMagnitude (num den : Nat) : Nat :=
  if num = 0 then 0
  else
    let exponent := max 1 (log2Ratio num den + 1023)
    let unit := 1075 - exponent
    (exponent - 1).toNat * fractions +
      roundQuotient (num <<< unit.toNat) (den <<< (-unit).toNat)

/-- The double nearest to a fraction, a tie going to the even significand; infinity where the
finite doubles end. -/
def ofRatio (negative : Bool) (num den : Nat) : Double :=
  ⟨negative, min infinity (nearestMagnitude num den),
    Nat.lt_of_le_of_lt (Nat.min_le_left _ _) (by decide)⟩

/-- The double nearest to a whole number. -/
def ofInt (n : Int) : Double :=
  ofRatio (n < 0) n.natAbs 1

/-- The double nearest to `digits * 10 ^ exponent`. The size is settled first, so that no power
beyond the range of doubles is computed. -/
def ofDecimal (negative : Bool) (digits : Nat) (exponent : Int) : Double :=
  let width : Int := (Nat.toDigits 10 digits).length
  if digits = 0 then zero negative
  else if 310 < width + exponent then infinite negative
  else if width + exponent < -324 then zero negative
  else ofRatio negative (digits * Nat.pow 10 exponent.toNat)
    (Nat.pow 10 (-exponent).toNat)

/-- The rounded product of two finite doubles. -/
def mul (a b : Double) : Double :=
  ofRatio (a.negative != b.negative) (a.ratio.1 * b.ratio.1) (a.ratio.2 * b.ratio.2)

/-- The rounded quotient of a finite double and a finite double other than zero. -/
def div (a b : Double) : Double :=
  ofRatio (a.negative != b.negative) (a.ratio.1 * b.ratio.2) (a.ratio.2 * b.ratio.1)

/-- A whole number that sorts doubles by the total order: by value, with each negative zero
before the positive one. -/
def rank (d : Double) : Int :=
  if d.negative then -(d.magnitude : Int) - 1 else d.magnitude

/-- The total order of doubles. -/
def totalOrder (a b : Double) : Ordering :=
  compare a.rank b.rank

/-- The whole number that the double is, if it is one below `2 ^ 53` in absolute value. -/
def toSmallInt? (d : Double) : Option Int :=
  let (num, den) := d.ratio
  if d.isFinite && num % den == 0 && num / den < 2 * fractions then
    some (if d.negative then -(num / den : Nat) else (num / den : Nat))
  else none

theorem rank_inj {a b : Double} : a.rank = b.rank ↔ a = b := by
  constructor
  · intro h
    obtain ⟨an, am, ha⟩ := a
    obtain ⟨bn, bm, hb⟩ := b
    cases an <;> cases bn <;> simp [rank] at h ⊢ <;> omega
  · rintro rfl
    rfl

end Double

end ApiScreens
