import ApiScreens.Text.Digit
import ApiScreens.Text.Split

/-!
# Numeric addresses of hosts

Addresses of four bytes, whose parts are written in decimal, octal or hexadecimal digits and the
last of which may stand for several bytes, and addresses of eight pieces of two bytes, in which one
run of zeros may be left out.
-/

namespace ApiScreens.Url

/-- A part of an address of four bytes: hexadecimal after `0x`, octal after another zero. -/
def addressPart? : List Char → Option Nat
  | [] => none
  | '0' :: 'x' :: digits => Text.number? 16 digits
  | '0' :: 'X' :: digits => Text.number? 16 digits
  | '0' :: d :: digits => Text.number? 8 (d :: digits)
  | digits => Text.number? 10 digits

/-- The parts of a name; a point at its end ends nothing. -/
def addressParts (name : List Char) : List (List Char) :=
  match (Text.splitChars '.' name).reverse with
  | [] :: part :: parts => (part :: parts).reverse
  | parts => parts.reverse

/-- Whether a name can only be an address: its last part is a number, or at least all digits. -/
def isAddress (name : List Char) : Bool :=
  (addressParts name).getLast?.any fun part =>
    (addressPart? part).isSome || (!part.isEmpty && part.all Char.isDigit)

/-- The bytes of a number, most significant first. -/
def bytesOfNumber : Nat → Nat → List Nat
  | 0, _ => []
  | width + 1, n => bytesOfNumber width (n / 256) ++ [n % 256]

/-- The four bytes of an address: one for each part, and as many as are left for the last. -/
def fourBytes? (name : List Char) : Option (List Nat) := do
  let numbers ← (addressParts name).mapM addressPart?
  let last ← numbers.getLast?
  guard (numbers.length ≤ 4)
  let width := 5 - numbers.length
  guard (numbers.dropLast.all (· < 256) && last < Nat.pow 256 width)
  some (numbers.dropLast ++ bytesOfNumber width last)

/-- The text of an address of four bytes. -/
def textOfBytes (bytes : List Nat) : List Char :=
  ['.'].intercalate (bytes.map (Nat.toDigits 10))

/-- A byte in decimal digits without needless zeros. -/
def plainByte? (digits : List Char) : Option Nat := do
  guard (!digits.isEmpty && (digits.length == 1 || digits.head? != some '0'))
  let n ← Text.number? 10 digits
  guard (n < 256)
  some n

/-- A piece in hexadecimal digits. -/
def piece? (digits : List Char) : Option Nat := do
  guard (!digits.isEmpty && digits.length ≤ 4)
  Text.number? 16 digits

/-- The last pieces of an address: one, or two that are written like an address of four bytes. -/
def lastPieces? (text : List Char) : Option (List Nat) :=
  if text.contains '.' then do
    match ← (Text.splitChars '.' text).mapM plainByte? with
    | [a, b, c, d] => some [256 * a + b, 256 * c + d]
    | _ => none
  else (piece? text).map ([·])

/-- Pieces between colons; `ends` tells whether the address ends with them. -/
def pieces? (ends : Bool) (text : List Char) : Option (List Nat) :=
  if text.isEmpty then some []
  else do
    let parts := Text.splitChars ':' text
    let last ← parts.getLast?
    let first ← parts.dropLast.mapM piece?
    some (first ++ (← if ends then lastPieces? last else (piece? last).map ([·])))

/-- The eight pieces of an address; two colons leave out at least one zero. -/
def eightPieces? (text : List Char) : Option (List Nat) :=
  match Text.cutAt? [':', ':'] text with
  | some (before, after) => do
    let first ← pieces? false before
    let last ← pieces? true after
    guard (first.length + last.length ≤ 7)
    some (first ++ List.replicate (8 - first.length - last.length) 0 ++ last)
  | none => do
    let pieces ← pieces? true text
    guard (pieces.length = 8)
    some pieces

/-- How many zeros come first. -/
def leadingZeros (pieces : List Nat) : Nat := (pieces.takeWhile (· == 0)).length

/-- Where the longest run of zeros begins, the first one of several, and how long it is. -/
def longestZeros (pieces : List Nat) : Nat × Nat :=
  (List.range pieces.length).foldl (fun (place, length) n =>
    let here := leadingZeros (pieces.drop n)
    if length < here then (n, here) else (place, length)) (0, 0)

/-- The text of an address of eight pieces; its longest run of zeros is left out if it has two at
least. -/
def textOfPieces (pieces : List Nat) : List Char :=
  let text (pieces : List Nat) := [':'].intercalate (pieces.map (Nat.toDigits 16))
  let (place, length) := longestZeros pieces
  if length < 2 then text pieces
  else text (pieces.take place) ++ [':', ':'] ++ text (pieces.drop (place + length))

end ApiScreens.Url
