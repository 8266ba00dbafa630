import ApiScreens.Number.Decimal

/-!
# Numbers of JSON documents

A number is an integer of the signed or unsigned 64-bit range or a finite double; `1` and `1.0`
are different numbers. A literal that needs a double keeps the first digits that fit 64 bits and
is scaled by a power of ten in double arithmetic, so every step of the scaling rounds.
-/

namespace ApiScreens.Json

/-- A number by kind and exact value. -/
inductive Number where
  | int (n : Int) (bounds : -0x8000000000000000 ≤ n ∧ n < 0x10000000000000000)
  | double (d : Double) (finite : d.isFinite = true)
deriving DecidableEq

namespace Number

/-- The integer, if it is in range. -/
def ofInt? (n : Int) : Option Number :=
  if h : -0x8000000000000000 ≤ n ∧ n < 0x10000000000000000 then some (int n h) else none

/-- The double, if it is finite. -/
def ofDouble? (d : Double) : Option Number :=
  if h : d.isFinite = true then some (double d h) else none

/-- An unsigned word. -/
def ofWord (n : UInt64) : Number :=
  int n.toNat ⟨by omega, by have := n.toNat_lt; omega⟩

/-- The double nearest to the number. -/
def toDouble : Number → Double
  | int n _ => Double.ofInt n
  | double d _ => d

/-- Doubles are written in place from `1e-5` up to `1e16` and with an exponent beyond. -/
def layout : Decimal.Layout := ⟨-5, 15, ['+']⟩

/-- The text of a number. -/
def chars : Number → List Char
  | int n _ => Decimal.intChars n
  | double d _ => layout.write d

/-- The text of a number as a string. -/
def text (n : Number) : String := String.ofList n.chars

/-- A number literal by its parts; the exponent is a sign and digits. -/
structure Literal where
  negative : Bool
  whole : List Char
  fraction : Option (List Char)
  exponent : Option (Bool × List Char)

namespace Literal

/-- The number that decimal digits write. -/
def natOf (ds : List Char) : Nat :=
  ds.foldl (fun n c => 10 * n + (c.toNat - '0'.toNat)) 0

/-- Digits taken into a significand while it fits 64 bits, with the digits left over. -/
def absorb (significand : Nat) : List Char → Nat × List Char
  | [] => (significand, [])
  | c :: rest =>
    let next := 10 * significand + (c.toNat - '0'.toNat)
    if next < 0x10000000000000000 then absorb next rest else (significand, c :: rest)

/-- The double nearest to a power of ten. -/
def power (n : Nat) : Double := Double.ofDecimal false 1 n

/-- Scales a whole number by a power of ten with a rounding in every step; `none` beyond the
finite doubles. -/
def scaled (significand : Nat) (exponent : Int) : Option Double :=
  let f := Double.ofRatio false significand 1
  if significand = 0 then some f
  else if 308 < exponent then none
  else if 0 ≤ exponent then
    let d := f.mul (power exponent.toNat)
    if d.isFinite then some d else none
  else if -308 ≤ exponent then some (f.div (power (-exponent).toNat))
  else if -616 ≤ exponent then some ((f.div (power 308)).div (power (-exponent - 308).toNat))
  else some (Double.zero false)

/-- The double of a literal. -/
def double? (x : Literal) : Option Double :=
  let (s, skipped) := absorb 0 x.whole
  let fraction := x.fraction.getD []
  let (s, unread) := absorb s fraction
  let shift : Int := skipped.length - (fraction.length - unread.length : Nat)
  let exponent : Int := match x.exponent with
    | none => 0
    | some (true, ds) => -(natOf ds : Int)
    | some (false, ds) => natOf ds
  (scaled s (shift + exponent)).map fun d => ⟨x.negative, d.magnitude, d.magnitude_lt⟩

/-- The number of a literal: an integer where it is written as one other than `-0` and is in
range, a double otherwise; `none` for a double out of range. -/
def number? (x : Literal) : Option Number :=
  let n := natOf x.whole
  let asDouble := x.double?.bind ofDouble?
  if x.fraction.isSome || x.exponent.isSome then asDouble
  else if x.negative && n == 0 then asDouble
  else match ofInt? (if x.negative then -(n : Int) else n) with
    | some number => some number
    | none => asDouble

end Literal

end Number

end ApiScreens.Json
