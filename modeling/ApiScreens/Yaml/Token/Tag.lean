import ApiScreens.Yaml.Spot
import ApiScreens.Yaml.Token

/-!
# Tags, anchors and directives of YAML texts

The tokens that begin with `!`, `&`, `*` and `%`.
-/

namespace ApiScreens.Yaml

/-- The characters of a tag's address; between angle brackets three more are allowed. -/
def isTagChar (verbatim : Bool) (c : Char) : Bool :=
  isWordChar c || ";/?:@&=+$.%!~*'()".toList.contains c || (verbatim && ",[]".toList.contains c)

/-- The byte of two hexadecimal digits after a percent sign. -/
def percentByte? (spots : List Spot) : Option UInt8 := do
  guard (charAt spots 0 = '%')
  Text.byteOfDigits? (charAt spots 1) (charAt spots 2)

/-- So many further bytes of a character, written with percent signs. -/
def percentTail? : Nat → List Spot → Option (List UInt8 × List Spot)
  | 0, spots => some ([], spots)
  | n + 1, spots => do
    let byte ← percentByte? spots
    guard (byte &&& 0xC0 = 0x80)
    let (bytes, rest) ← percentTail? n (spots.drop 3)
    some (byte :: bytes, rest)

/-- How many bytes follow the first byte of a character. -/
def tailLength? (byte : UInt8) : Option Nat :=
  if byte &&& 0x80 = 0 then some 0
  else if byte &&& 0xE0 = 0xC0 then some 1
  else if byte &&& 0xF0 = 0xE0 then some 2
  else if byte &&& 0xF8 = 0xF0 then some 3
  else none

/-- The bytes of a character, written with percent signs. Only the number of bytes has to fit the
first one; they need not encode a character that exists. -/
def percentBytes? (spots : List Spot) : Option (List UInt8 × List Spot) := do
  let byte ← percentByte? spots
  let (bytes, rest) ← percentTail? (← tailLength? byte) (spots.drop 3)
  some (byte :: bytes, rest)

/-- The bytes of a tag's address, with a bound on the number of its characters. -/
def tagBytes? (verbatim : Bool) : Nat → List Spot → Option (List UInt8 × List Spot)
  | 0, spots => some ([], spots)
  | bound + 1, spots =>
    let c := charAt spots 0
    if c = '%' then do
      let (bytes, rest) ← percentBytes? spots
      let (more, rest) ← tagBytes? verbatim bound rest
      some (bytes ++ more, rest)
    else if isTagChar verbatim c then do
      let (more, rest) ← tagBytes? verbatim bound (spots.drop 1)
      some (Text.utf8 [c] ++ more, rest)
    else some ([], spots)

/-- The address of a tag. -/
def tagAddress? (verbatim : Bool) (spots : List Spot) : Option (List UInt8 × List Spot) :=
  tagBytes? verbatim spots.length spots

/-- An exclamation mark with the word after it and, if it follows, a second mark. -/
def tagHandle? (spots : List Spot) : Option (List Char × List Spot) := do
  guard (charAt spots 0 = '!')
  let (word, rest) := takeChars isWordChar (spots.drop 1)
  if charAt rest 0 = '!' then some ('!' :: word ++ ['!'], rest.drop 1)
  else some ('!' :: word, rest)

/-- Whether a handle ends in a mark of its own. -/
def isClosedHandle (handle : List Char) : Bool :=
  handle.length > 1 && handle.getLast? == some '!'

/-- A tag, from its exclamation mark on. -/
def scanTag? (inFlow : Bool) (spots : List Spot) : Option (Token × List Spot) := do
  let (handle, suffix, rest) ←
    if charAt spots 1 = '<' then do
      let (address, rest) ← tagAddress? true (spots.drop 2)
      guard (address ≠ [] ∧ charAt rest 0 = '>')
      some ([], beforeNull address, rest.drop 1)
    else do
      let (handle, rest) ← tagHandle? spots
      let (address, rest) ← tagAddress? false rest
      if isClosedHandle handle then do
        guard (address ≠ [])
        some (handle, beforeNull address, rest)
      else
        let suffix := beforeNull (Text.utf8 (handle.drop 1) ++ address)
        if suffix = [] then some ([], Text.utf8 ['!'], rest) else some (['!'], suffix, rest)
  guard ((inFlow && charAt rest 0 == ',') || isGapOrEnd (charAt rest 0))
  some (.tag (String.ofList handle) suffix, rest)

/-- The name of an anchor or an alias, from its mark on. -/
def scanName? (spots : List Spot) : Option (String × List Spot) := do
  let (name, rest) := takeChars isWordChar (spots.drop 1)
  let next := charAt rest 0
  guard (name ≠ [] ∧ (isGapOrEnd next || "?:,]\x7d%@`".toList.contains next))
  some (String.ofList name, rest)

/-- A number of a version, at most nine digits. -/
def versionNumber? (spots : List Spot) : Option (Nat × List Spot) := do
  let (digits, rest) := takeChars Char.isDigit spots
  guard (digits ≠ [] ∧ digits.length ≤ 9)
  some (digits.foldl (fun n c => 10 * n + (c.toNat - '0'.toNat)) 0, rest)

/-- A directive, from its percent sign to the end of its line. -/
def scanDirective? (spots : List Spot) : Option (Token × List Spot) := do
  let (name, rest) := takeChars isWordChar (spots.drop 1)
  guard (name ≠ [] ∧ isGapOrEnd (charAt rest 0))
  let rest := dropChars isGap rest
  let (token, rest) ←
    if String.ofList name = "YAML" then do
      let (major, rest) ← versionNumber? rest
      guard (charAt rest 0 = '.')
      let (minor, rest) ← versionNumber? (rest.drop 1)
      some (Token.version major minor, rest)
    else if String.ofList name = "TAG" then do
      let (handle, rest) ← tagHandle? rest
      guard (handle = ['!'] ∨ isClosedHandle handle)
      guard (isGap (charAt rest 0))
      let (stem, rest) ← tagAddress? true (dropChars isGap rest)
      guard (stem ≠ [] ∧ isGapOrEnd (charAt rest 0))
      some (Token.tagHandle (String.ofList handle) (beforeNull stem), rest)
    else none
  some (token, ← dropLineEnd? rest)

end ApiScreens.Yaml
