import ApiScreens.Json.Basic
import ApiScreens.Text.Digit

/-!
# Reading JSON texts

A reader takes a value off the front of a text and answers it with the text that is left. A text
with more than 127 nested arrays and objects is refused, and so is a string with a lone surrogate
or a number beyond the finite doubles. Of members with one key the last stays.
-/

namespace ApiScreens.Json

/-- The characters that may stand between the parts of a JSON text. -/
def isSpace (c : Char) : Bool := c == ' ' || c == '\n' || c == '\t' || c == '\r'

/-- The text from its first part on. -/
def skipSpace (cs : List Char) : List Char := cs.dropWhile isSpace

/-- The value of a hexadecimal digit of either case. -/
def hexValue? (c : Char) : Option Nat := Text.digit? 16 c

/-- The number of four hexadecimal digits. -/
def hexValue4? (a b c d : Char) : Option Nat := do
  let a ← hexValue? a
  let b ← hexValue? b
  let c ← hexValue? c
  let d ← hexValue? d
  some (4096 * a + 256 * b + 16 * c + d)

/-- The character of a one-letter escape. -/
def escape? : Char → Option Char
  | '"' => some '"'
  | '\\' => some '\\'
  | '/' => some '/'
  | 'b' => some '\x08'
  | 'f' => some '\x0c'
  | 'n' => some '\n'
  | 'r' => some '\r'
  | 't' => some '\t'
  | _ => none

/-- Whether a 16-bit unit opens a surrogate pair. -/
def isHighSurrogate (n : Nat) : Bool := 0xD800 ≤ n && n < 0xDC00

/-- Whether a 16-bit unit closes a surrogate pair. -/
def isLowSurrogate (n : Nat) : Bool := 0xDC00 ≤ n && n < 0xE000

/-- The characters of a string whose opening quote has been read. -/
def readString : List Char → Option (List Char × List Char)
  | [] => none
  | '"' :: rest => some ([], rest)
  | '\\' :: 'u' :: a :: b :: c :: d :: rest =>
    match hexValue4? a b c d with
    | none => none
    | some n =>
      if isHighSurrogate n then
        match rest with
        | '\\' :: 'u' :: e :: f :: g :: h :: rest =>
          match hexValue4? e f g h with
          | none => none
          | some m =>
            if isLowSurrogate m then
              (readString rest).map fun (s, rest) =>
                (Char.ofNat (0x10000 + 0x400 * (n - 0xD800) + (m - 0xDC00)) :: s, rest)
            else none
        | _ => none
      else if isLowSurrogate n then none
      else (readString rest).map fun (s, rest) => (Char.ofNat n :: s, rest)
  | '\\' :: e :: rest =>
    match escape? e with
    | none => none
    | some c => (readString rest).map fun (s, rest) => (c :: s, rest)
  | c :: rest =>
    if c.toNat < 0x20 then none
    else (readString rest).map fun (s, rest) => (c :: s, rest)

/-- The fraction of a number, if one follows. -/
def readFraction : List Char → Option (Option (List Char) × List Char)
  | '.' :: cs =>
    let (ds, rest) := cs.span Char.isDigit
    if ds.isEmpty then none else some (some ds, rest)
  | cs => some (none, cs)

/-- The exponent of a number, if one follows. -/
def readExponent (cs : List Char) : Option (Option (Bool × List Char) × List Char) :=
  match cs with
  | c :: after =>
    if c = 'e' ∨ c = 'E' then
      let (negative, cs) := match after with
        | '-' :: cs => (true, cs)
        | '+' :: cs => (false, cs)
        | cs => (false, cs)
      let (ds, rest) := cs.span Char.isDigit
      if ds.isEmpty then none else some (some (negative, ds), rest)
    else some (none, cs)
  | [] => some (none, [])

/-- A number literal. A leading zero stands alone before the point. -/
def readLiteral (cs : List Char) : Option (Number.Literal × List Char) := do
  let (negative, cs) := match cs with
    | '-' :: cs => (true, cs)
    | cs => (false, cs)
  let (whole, cs) := cs.span Char.isDigit
  guard (whole = ['0'] ∨ whole.head?.any (· != '0'))
  let (fraction, cs) ← readFraction cs
  let (exponent, cs) ← readExponent cs
  some (⟨negative, whole, fraction, exponent⟩, cs)

/-- A number. -/
def readNumber (cs : List Char) : Option (Json × List Char) := do
  let (literal, rest) ← readLiteral cs
  let n ← literal.number?
  some (number n, rest)

/-- A value that is no array and no object. -/
def readScalar (cs : List Char) : Option (Json × List Char) :=
  match cs with
  | 'n' :: 'u' :: 'l' :: 'l' :: rest => some (null, rest)
  | 't' :: 'r' :: 'u' :: 'e' :: rest => some (bool true, rest)
  | 'f' :: 'a' :: 'l' :: 's' :: 'e' :: rest => some (bool false, rest)
  | '"' :: rest => (readString rest).map fun (s, rest) => (string (String.ofList s), rest)
  | cs => readNumber cs

/-- The items of an array up to its closing bracket, with a bound on their number. -/
def readItems (value : List Char → Option (Json × List Char)) :
    Nat → List Char → Option (List Json × List Char)
  | 0, _ => none
  | n + 1, cs => do
    let (v, cs) ← value (skipSpace cs)
    match skipSpace cs with
    | ',' :: cs =>
      let (vs, rest) ← readItems value n cs
      some (v :: vs, rest)
    | ']' :: rest => some ([v], rest)
    | _ => none

/-- One member of an object. -/
def readMember (value : List Char → Option (Json × List Char)) (cs : List Char) :
    Option ((String × Json) × List Char) :=
  match skipSpace cs with
  | '"' :: cs => do
    let (key, cs) ← readString cs
    match skipSpace cs with
    | ':' :: cs =>
      let (v, rest) ← value (skipSpace cs)
      some ((String.ofList key, v), rest)
    | _ => none
  | _ => none

/-- The members of an object up to its closing brace, with a bound on their number. -/
def readMembers (value : List Char → Option (Json × List Char)) :
    Nat → List Char → Option (Members × List Char)
  | 0, _ => none
  | n + 1, cs => do
    let (m, cs) ← readMember value cs
    match skipSpace cs with
    | ',' :: cs =>
      let (ms, rest) ← readMembers value n cs
      some (m :: ms, rest)
    | '}' :: rest => some ([m], rest)
    | _ => none

/-- A value, with a reader for the values in it. -/
def readWith (value : List Char → Option (Json × List Char)) (cs : List Char) :
    Option (Json × List Char) :=
  match cs with
  | '[' :: cs =>
    match skipSpace cs with
    | ']' :: rest => some (array [], rest)
    | cs => (readItems value (cs.length + 1) cs).map fun (vs, rest) => (array vs, rest)
  | '{' :: cs =>
    match skipSpace cs with
    | '}' :: rest => some (object [], rest)
    | cs => (readMembers value (cs.length + 1) cs).map fun (ms, rest) => (object ms, rest)
  | cs => readScalar cs

/-- A value with at most so many nested arrays and objects. -/
def readValue : Nat → List Char → Option (Json × List Char)
  | 0, cs => readScalar cs
  | depth + 1, cs => readWith (readValue depth) cs

/-- The deepest nesting of arrays and objects that is read. -/
def maxDepth : Nat := 127

/-- The value of a JSON text, which may have space around it, with all members as written. -/
def readWritten? (text : String) : Option Json := do
  let (value, rest) ← readValue maxDepth (skipSpace text.toList)
  guard (skipSpace rest = [])
  some value

/-- The value of a JSON text with the members of objects sorted; of those with one key the last
counts. -/
def read? (text : String) : Option Json := (readWritten? text).map sorted

end ApiScreens.Json
