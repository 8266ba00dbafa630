import ApiScreens.Text.CombiningTable

/-!
# Composed texts

Unicode's composed normal form. Characters are taken apart into the marks that they are made up
of, marks after one character are put into the order of their combining classes, and whatever fits
together is composed again.
-/

namespace ApiScreens.Text

/-- The combining class of a character, which is zero unless it is a mark of certain kinds. -/
def combiningClass (c : Char) : Nat :=
  match combiningClasses.find? fun (_, first, last) => first ≤ c.toNat && c.toNat ≤ last with
  | some (n, _) => n
  | none => 0

/-- The characters of a list, two by two. -/
def twoByTwo : List Char → List (Char × Char)
  | a :: b :: rest => (a, b) :: twoByTwo rest
  | _ => []

/-- Compositions: the two characters and the one that they make up. -/
def compositionList : List (Char × Char × Char) :=
  compositions.flatMap fun (second, text) =>
    (twoByTwo text.toList).map fun (first, whole) => (first, Char.ofNat second, whole)

/-- The syllable of two Korean letters, or of a syllable and its last letter. -/
def syllable? (a b : Char) : Option Char :=
  let m := a.toNat
  let n := b.toNat
  if 0x1100 ≤ m ∧ m < 0x1113 ∧ 0x1161 ≤ n ∧ n < 0x1176 then
    some (Char.ofNat (0xAC00 + 28 * (21 * (m - 0x1100) + (n - 0x1161))))
  else if 0xAC00 ≤ m ∧ m < 0xD7A4 ∧ (m - 0xAC00) % 28 = 0 ∧ 0x11A8 ≤ n ∧ n < 0x11C3 then
    some (Char.ofNat (m + (n - 0x11A7)))
  else none

/-- The two characters that a Korean syllable is made up of. -/
def syllableParts? (c : Char) : Option (Char × Char) :=
  if c.toNat < 0xAC00 ∨ 0xD7A4 ≤ c.toNat then none
  else
    let n := c.toNat - 0xAC00
    if n % 28 = 0 then
      some (Char.ofNat (0x1100 + n / 588), Char.ofNat (0x1161 + n / 28 % 21))
    else some (Char.ofNat (c.toNat - n % 28), Char.ofNat (0x11A7 + n % 28))

/-- The character that two make up. -/
def compose? (a b : Char) : Option Char :=
  match compositionList.find? fun (first, second, _) => first == a && second == b with
  | some (_, _, whole) => some whole
  | none => syllable? a b

/-- The two characters that a character is made up of. -/
def parts? (c : Char) : Option (Char × Char) :=
  match compositionList.find? fun (_, _, whole) => whole == c with
  | some (first, second, _) => some (first, second)
  | none => syllableParts? c

/-- Takes a character apart, so many times at most. -/
def takeApart : Nat → Char → List Char
  | 0, c => [c]
  | depth + 1, c =>
    match parts? c with
    | some (a, b) => takeApart depth a ++ takeApart depth b
    | none => [c]

/-- Puts a character behind others, which are given last one first: marks of a higher class stay
behind it. -/
def putBehind (c : Char) : List Char → List Char
  | [] => [c]
  | d :: rest =>
    if 0 < combiningClass c ∧ combiningClass c < combiningClass d then d :: putBehind c rest
    else c :: d :: rest

/-- The text in its smallest parts, marks in order. No character has more than four parts. -/
def decomposed (s : List Char) : List Char :=
  ((s.flatMap (takeApart 3)).foldl (fun done c => putBehind c done) []).reverse

/-- Composes a character with the marks after it; `kept` holds those that did not fit, last one
first. A mark does not reach past another one of its own or a higher class. -/
def composeFrom (c : Char) (kept : List Char) : List Char → List Char
  | [] => c :: kept.reverse
  | d :: rest =>
    let blocked := kept.head?.any fun mark => combiningClass d ≤ combiningClass mark
    match if blocked then none else compose? c d with
    | some whole => composeFrom whole kept rest
    | none =>
      if combiningClass d = 0 then c :: kept.reverse ++ composeFrom d [] rest
      else composeFrom c (d :: kept) rest

/-- The composed form of a text. -/
def composed (s : List Char) : List Char :=
  let parts := decomposed s
  let marks := parts.takeWhile fun c => combiningClass c != 0
  match parts.drop marks.length with
  | [] => marks
  | c :: rest => marks ++ composeFrom c [] rest

end ApiScreens.Text
