import ApiScreens.Text.Case

/-!
# Natural order of texts

Texts compare chunk by chunk: a run of ASCII digits counts as the number that it writes, any other
character as its lower-case form. Texts that agree in every chunk compare character by character,
so that only equal texts tie.
-/

namespace ApiScreens.Text

/-- A maximal run of ASCII digits, or a single other character. -/
inductive Chunk where
  | digits (run : List Char)
  | other (c : Char)
deriving DecidableEq

namespace Chunk

/-- Puts a character in front of the chunks of what follows it. -/
def push (c : Char) : List Chunk → List Chunk
  | digits run :: rest =>
    if c.isDigit then digits (c :: run) :: rest else other c :: digits run :: rest
  | rest => (if c.isDigit then digits [c] else other c) :: rest

/-- The chunks of a text. -/
def ofText (s : List Char) : List Chunk :=
  s.foldr push []

/-- Digit runs compare by the numbers they write, whatever their leading zeros. -/
def compareRuns (a b : List Char) : Ordering :=
  let a := a.dropWhile (· == '0')
  let b := b.dropWhile (· == '0')
  (compare a.length b.length).then (List.compareLex compare a b)

/-- What a chunk compares by when the other one is not a digit run as well. -/
def letters : Chunk → List Char
  | digits run => run.take 1
  | other c => lowercaseChar c

/-- The order of chunks. -/
def order : Chunk → Chunk → Ordering
  | digits a, digits b => compareRuns a b
  | a, b => List.compareLex compare a.letters b.letters

end Chunk

/-- The natural order of texts. -/
def naturalOrder (a b : String) : Ordering :=
  (List.compareLex Chunk.order (Chunk.ofText a.toList) (Chunk.ofText b.toList)).then (compare a b)

end ApiScreens.Text
