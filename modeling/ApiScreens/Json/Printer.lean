import ApiScreens.Json.Basic

/-!
# Texts of JSON values

The compact text of a value, its indented text, and its canonical text, which is the compact text
with all members sorted. Each writer puts a value in front of the text that follows it.
-/

namespace ApiScreens.Json

/-- A hexadecimal digit in lower case. -/
def hexDigit (n : Nat) : Char := Nat.digitChar n

/-- A character inside a string: quotes, backslashes and controls are escaped. -/
def escapedChar (c : Char) : List Char :=
  match c with
  | '"' => ['\\', '"']
  | '\\' => ['\\', '\\']
  | '\x08' => ['\\', 'b']
  | '\x0c' => ['\\', 'f']
  | '\n' => ['\\', 'n']
  | '\r' => ['\\', 'r']
  | '\t' => ['\\', 't']
  | c =>
    if c.toNat < 0x20 then
      ['\\', 'u', '0', '0', hexDigit (c.toNat / 16), hexDigit (c.toNat % 16)]
    else [c]

/-- The literal of a string. -/
def stringChars (s : String) : List Char :=
  '"' :: s.toList.flatMap escapedChar ++ ['"']

mutual

/-- Writes a value without blanks. -/
def writeCompact : Json → List Char → List Char
  | null, rest => ['n', 'u', 'l', 'l'] ++ rest
  | bool true, rest => ['t', 'r', 'u', 'e'] ++ rest
  | bool false, rest => ['f', 'a', 'l', 's', 'e'] ++ rest
  | number n, rest => n.chars ++ rest
  | string s, rest => stringChars s ++ rest
  | array items, rest => '[' :: writeItems items (']' :: rest)
  | object members, rest => '{' :: writeMembers members ('}' :: rest)

/-- Writes items with commas between them. -/
def writeItems : List Json → List Char → List Char
  | [], rest => rest
  | [v], rest => writeCompact v rest
  | v :: w :: vs, rest => writeCompact v (',' :: writeItems (w :: vs) rest)

/-- Writes members with commas between them. -/
def writeMembers : Members → List Char → List Char
  | [], rest => rest
  | [(k, v)], rest => stringChars k ++ ':' :: writeCompact v rest
  | (k, v) :: m :: ms, rest =>
    stringChars k ++ ':' :: writeCompact v (',' :: writeMembers (m :: ms) rest)

end

/-- A new line indented by two blanks for each level. -/
def newLine (level : Nat) : List Char :=
  '\n' :: List.replicate (2 * level) ' '

mutual

/-- Writes a value with every item and member on a line of its own. -/
def writeIndented (level : Nat) : Json → List Char → List Char
  | array (v :: vs), rest =>
    '[' :: writeIndentedItems (level + 1) (v :: vs) (newLine level ++ ']' :: rest)
  | object (m :: ms), rest =>
    '{' :: writeIndentedMembers (level + 1) (m :: ms) (newLine level ++ '}' :: rest)
  | value, rest => writeCompact value rest

/-- Writes items, each on a line of its own. -/
def writeIndentedItems (level : Nat) : List Json → List Char → List Char
  | [], rest => rest
  | [v], rest => newLine level ++ writeIndented level v rest
  | v :: w :: vs, rest =>
    newLine level ++ writeIndented level v (',' :: writeIndentedItems level (w :: vs) rest)

/-- Writes members, each on a line of its own. -/
def writeIndentedMembers (level : Nat) : Members → List Char → List Char
  | [], rest => rest
  | [(k, v)], rest => newLine level ++ stringChars k ++ ':' :: ' ' :: writeIndented level v rest
  | (k, v) :: m :: ms, rest =>
    newLine level ++ stringChars k ++ ':' :: ' ' ::
      writeIndented level v (',' :: writeIndentedMembers level (m :: ms) rest)

end

/-- The compact text of a value, members as they stand. -/
def compact (value : Json) : String := String.ofList (value.writeCompact [])

/-- The indented text of a value, members as they stand. -/
def pretty (value : Json) : String := String.ofList (value.writeIndented 0 [])

/-- The compact text of a value with all members sorted by key. -/
def canonicalText (value : Json) : String := value.sorted.compact

end ApiScreens.Json
