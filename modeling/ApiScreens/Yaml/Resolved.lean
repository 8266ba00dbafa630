import ApiScreens.Json.Number
import ApiScreens.Text.Digit

/-!
# What plain scalars mean

A plain scalar is a null, a boolean, an integer or a floating-point number if it is written like
one, and a string otherwise.
-/

namespace ApiScreens.Yaml

/-- A number of a YAML document: an integer of the signed or unsigned 64-bit range or a double,
which may be infinite or no number at all. -/
inductive Number where
  | int (n : Int) (bounds : -0x8000000000000000 ≤ n ∧ n < 0x10000000000000000)
  | float (d : Double)

namespace Number

/-- The integer, if it is in range. -/
def ofInt? (n : Int) : Option Number :=
  if h : -0x8000000000000000 ≤ n ∧ n < 0x10000000000000000 then some (int n h) else none

/-- Doubles are written as in JSON texts, but for the plus sign of exponents. -/
def layout : Decimal.Layout := ⟨-5, 15, []⟩

/-- The text of a number. -/
def text : Number → String
  | int n _ => String.ofList (Decimal.intChars n)
  | float d =>
    if d.isNaN then ".nan"
    else if d.isFinite then String.ofList (layout.write d)
    else if d.negative then "-.inf"
    else ".inf"

/-- Whether two numbers count as equal keys: doubles by value, so zeros of either sign are equal,
and every value that is no number equals every other. -/
def sameKey : Number → Number → Bool
  | int a _, int b _ => a == b
  | float a, float b =>
    if a.isNaN || b.isNaN then a.isNaN && b.isNaN
    else a == b || (a.magnitude == 0 && b.magnitude == 0)
  | _, _ => false

end Number

namespace Scalar

/-- The words for null. -/
def isNull (s : List Char) : Bool :=
  ["~", "null", "Null", "NULL"].any (·.toList == s)

/-- The words for booleans. -/
def bool? (s : List Char) : Option Bool :=
  if ["true", "True", "TRUE"].any (·.toList == s) then some true
  else if ["false", "False", "FALSE"].any (·.toList == s) then some false
  else none

/-- The number that digits write; there is at least one. -/
def nat? (base : Nat) (s : List Char) : Option Nat :=
  if s.isEmpty then none else Text.number? base s

/-- Whether the text begins with a sign. -/
def hasSign (s : List Char) : Bool := s.head?.any fun c => c == '+' || c == '-'

/-- Whether the text has only digits after an optional sign and begins with a needless zero. -/
def hasNeedlessZero (s : List Char) : Bool :=
  let ds := if hasSign s then s.drop 1 else s
  ds.length > 1 && ds.head? == some '0' && ds.all Char.isDigit

/-- The base and the digits of an integer without its sign: two letters mark the bases 16, 8
and 2. -/
def baseAndDigits (s : List Char) : Nat × List Char :=
  match s with
  | '0' :: 'x' :: ds => (16, ds)
  | '0' :: 'o' :: ds => (8, ds)
  | '0' :: 'b' :: ds => (2, ds)
  | ds => (10, ds)

/-- The whole number that a text without a minus sign writes. -/
def unsigned? (s : List Char) : Option Nat :=
  let s := match s with
    | '+' :: rest => rest
    | s => s
  let (base, ds) := baseAndDigits s
  if hasSign s || hasSign ds || hasNeedlessZero s then none else nat? base ds

/-- The number that a text writes after a minus sign. -/
def negative? (s : List Char) : Option Nat :=
  match s with
  | '-' :: rest =>
    let (base, ds) := baseAndDigits rest
    if hasNeedlessZero s then none else nat? base ds
  | _ => none

/-- The integer that a text writes. -/
def int? (s : List Char) : Option Int :=
  match unsigned? s with
  | some n => some n
  | none => (negative? s).map fun n => -(n : Int)

/-- A decimal number with a point or an exponent or neither, at least one digit before the
exponent, without its sign. -/
def decimal? (s : List Char) : Option (Nat × Int) := do
  let (whole, s) := s.span Char.isDigit
  let (fraction, s) := match s with
    | '.' :: rest => rest.span Char.isDigit
    | s => ([], s)
  guard (whole ≠ [] ∨ fraction ≠ [])
  let exponent : Int ← match s with
    | [] => some 0
    | e :: rest => do
      guard (e = 'e' ∨ e = 'E')
      match rest with
      | '-' :: ds => (nat? 10 ds).map fun n => -(n : Int)
      | '+' :: ds => (nat? 10 ds).map fun n => (n : Int)
      | ds => (nat? 10 ds).map fun n => (n : Int)
  let digits := (nat? 10 (whole ++ fraction)).getD 0
  some (digits, exponent - fraction.length)

/-- The double that a text writes; a number beyond the finite doubles is none. -/
def float? (s : List Char) : Option Double :=
  let unplussed := match s with
    | '+' :: rest => if hasSign rest then none else some rest
    | s => some s
  match unplussed with
  | none => none
  | some t =>
    if [".inf", ".Inf", ".INF"].any (·.toList == t) then some (Double.infinite false)
    else if ["-.inf", "-.Inf", "-.INF"].any (·.toList == s) then some (Double.infinite true)
    else if [".nan", ".NaN", ".NAN"].any (·.toList == s) then some Double.nan
    else
      let (negative, ds) := match t with
        | '-' :: rest => (true, rest)
        | ds => (false, ds)
      match decimal? ds with
      | none => none
      | some (digits, exponent) =>
        let d := Double.ofDecimal negative digits exponent
        if d.isFinite then some d else none

end Scalar

end ApiScreens.Yaml
