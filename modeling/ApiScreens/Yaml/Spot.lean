/-!
# Characters with their places

A YAML text is read as a list of characters that know their line and column, and how many bytes
of UTF-8 stand before them. Every way to end a line but the two separator characters counts as one
line feed, and a null character stands at the end, where no text can have one.
-/

namespace ApiScreens.Yaml

/-- A character with its place in the text. -/
structure Spot where
  char : Char
  index : Nat
  line : Nat
  column : Nat

/-- The characters that a YAML text may hold. -/
def isAllowed (c : Char) : Bool :=
  let n := c.toNat
  n == 0x9 || n == 0xA || n == 0xD || (0x20 ≤ n && n ≤ 0x7E) || n == 0x85 ||
    (0xA0 ≤ n && n ≤ 0xFFFD) || 0x10000 ≤ n

/-- The end of a text. -/
def isEnd (c : Char) : Bool := c == '\x00'

/-- The ends of lines; the first three ways to write one have become a line feed. -/
def isBreak (c : Char) : Bool := c == '\n' || c == '\u2028' || c == '\u2029'

/-- Blanks inside a line. -/
def isGap (c : Char) : Bool := c == ' ' || c == '\t'

/-- The characters that end a word. -/
def isGapOrEnd (c : Char) : Bool := isGap c || isBreak c || isEnd c

/-- Letters, digits, the hyphen and the underscore of ASCII. -/
def isWordChar (c : Char) : Bool := c.isAlphanum || c == '-' || c == '_'

/-- The characters that close or separate flow collections, or open one. -/
def isFlowIndicator (c : Char) : Bool :=
  c == ',' || c == '[' || c == ']' || c == '\x7b' || c == '\x7d'

namespace Spot

/-- The spots of a text from a place on. -/
def listFrom (index line column : Nat) : List Char → List Spot
  | [] => [⟨'\x00', index, line, column⟩]
  | '\r' :: '\n' :: rest => ⟨'\n', index, line, column⟩ :: listFrom (index + 2) (line + 1) 0 rest
  | c :: rest =>
    if c = '\r' ∨ c = '\u0085' then
      ⟨'\n', index, line, column⟩ :: listFrom (index + c.utf8Size) (line + 1) 0 rest
    else if isBreak c then
      ⟨c, index, line, column⟩ :: listFrom (index + c.utf8Size) (line + 1) 0 rest
    else ⟨c, index, line, column⟩ :: listFrom (index + c.utf8Size) line (column + 1) rest

/-- The spots of a text of allowed characters. -/
def ofText? (text : String) : Option (List Spot) :=
  if text.toList.all isAllowed then some (listFrom 0 0 0 text.toList) else none

end Spot

/-- The character so many places on. -/
def charAt (spots : List Spot) (n : Nat) : Char :=
  (spots[n]?.map Spot.char).getD '\x00'

/-- The column of the next character. -/
def columnOf (spots : List Spot) : Nat :=
  (spots.head?.map Spot.column).getD 0

/-- Takes characters off the front while they pass a test. -/
def takeChars (test : Char → Bool) (spots : List Spot) : List Char × List Spot :=
  let (taken, rest) := spots.span fun s => test s.char
  (taken.map Spot.char, rest)

/-- Drops characters off the front while they pass a test. -/
def dropChars (test : Char → Bool) (spots : List Spot) : List Spot :=
  spots.dropWhile fun s => test s.char

/-- Drops the blanks, the comment and the line end after them; nothing else may stand there. -/
def dropLineEnd? (spots : List Spot) : Option (List Spot) :=
  let spots := dropChars isGap spots
  let spots :=
    if charAt spots 0 = '#' then dropChars (fun c => !isBreak c && !isEnd c) spots else spots
  if isBreak (charAt spots 0) then some (spots.drop 1)
  else if isEnd (charAt spots 0) then some spots
  else none

/-- Whether a line begins with three such characters and then a gap or its end. -/
def isDocumentMark (mark : Char) (spots : List Spot) : Bool :=
  columnOf spots == 0 && charAt spots 0 == mark && charAt spots 1 == mark &&
    charAt spots 2 == mark && isGapOrEnd (charAt spots 3)

end ApiScreens.Yaml
