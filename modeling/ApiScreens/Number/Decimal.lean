import ApiScreens.Number.Double

/-!
# Decimal texts of doubles

The fewest decimal digits that read back as the same double, and the layouts that write them. Of
two such numbers the nearer is taken, of two equally near the one with the even last digit.
-/

namespace ApiScreens

/-- The number `digits * 10 ^ exponent`. -/
structure Decimal where
  digits : Nat
  exponent : Int
deriving DecidableEq

namespace Decimal

/-- Drops trailing zeros of the digits, at most as many as the first argument says. -/
def strip : Nat → Decimal → Decimal
  | 0, d => d
  | n + 1, d => if d.digits % 10 = 0 then strip n ⟨d.digits / 10, d.exponent + 1⟩ else d

/-- The two neighbours of a fraction among the multiples of `10 ^ exponent`, nearer one first. -/
def neighbours (num den : Nat) (exponent : Int) : List Decimal :=
  let num := num * Nat.pow 10 (-exponent).toNat
  let den := den * Nat.pow 10 exponent.toNat
  let below := num / den
  let nearest := Double.roundQuotient num den
  [⟨nearest, exponent⟩, ⟨2 * below + 1 - nearest, exponent⟩]

/-- The exponent of the first decimal digit of a positive fraction. -/
def leadingExponent (num den : Nat) : Int :=
  let guess : Int := (Nat.toDigits 10 num).length - (Nat.toDigits 10 den).length
  if num * Nat.pow 10 (-guess).toNat < den * Nat.pow 10 guess.toNat then guess - 1 else guess

/-- Candidates for the decimal text of a double, fewer digits first; the last one is exact. -/
def candidates (d : Double) : List Decimal :=
  let (num, den) := d.ratio
  let lead := leadingExponent num den
  (List.range 17).flatMap (fun n : Nat => neighbours num den (lead - n)) ++
    [⟨num * Nat.pow 5 (-d.scale).toNat, -((-d.scale).toNat : Int)⟩]

/-- Whether the decimal number reads as the double. -/
def reads (x : Decimal) (d : Double) : Bool :=
  Double.ofDecimal d.negative x.digits x.exponent == d

/-- The shortest decimal number that reads as a finite double. -/
def shortest (d : Double) : Decimal :=
  if d.magnitude = 0 then ⟨0, 0⟩
  else strip 17 (((candidates d).find? (·.reads d)).getD ⟨0, 0⟩)

/-- The decimal digits of a natural number. -/
def digitChars (n : Nat) : List Char := Nat.toDigits 10 n

/-- How a text shows an integer. -/
def intChars (n : Int) : List Char :=
  if n < 0 then '-' :: digitChars n.natAbs else digitChars n.natAbs

/-- A layout of decimal numbers: where the point is written in place, and the sign that a
positive exponent has otherwise. -/
structure Layout where
  positionalFrom : Int
  positionalTo : Int
  exponentSign : List Char

/-- Writes a positive decimal number. -/
def Layout.unsigned (layout : Layout) (x : Decimal) : List Char :=
  let ds := digitChars x.digits
  let lead := ds.length - 1 + x.exponent
  if layout.positionalFrom ≤ lead ∧ lead ≤ layout.positionalTo then
    if lead < 0 then
      ['0', '.'] ++ List.replicate (-lead - 1).toNat '0' ++ ds
    else
      let whole := (lead + 1).toNat
      let fraction := ds.drop whole
      ds.take whole ++ List.replicate (whole - ds.length) '0' ++ '.' ::
        (if fraction.isEmpty then ['0'] else fraction)
  else
    let fraction := ds.drop 1
    ds.take 1 ++ (if fraction.isEmpty then [] else '.' :: fraction) ++ 'e' ::
      (if lead < 0 then '-' :: digitChars lead.natAbs
        else layout.exponentSign ++ digitChars lead.natAbs)

/-- Writes a finite double. -/
def Layout.write (layout : Layout) (d : Double) : List Char :=
  let text := if d.magnitude = 0 then ['0', '.', '0'] else layout.unsigned (shortest d)
  if d.negative then '-' :: text else text

end Decimal

end ApiScreens
