import ApiScreens.Text.Category
import ApiScreens.Text.Composed
import ApiScreens.Url.LabelTable

/-!
# Labels of domains

Which labels the name of a host may have, as far as that depends on more than single characters: no
label begins with a mark, invisible joiners stand only where they change how letters join, and in a
domain with letters that run from right to left every label keeps to one direction.
-/

namespace ApiScreens.Url

open Text (Run)

/-- The direction in which a character is written. -/
inductive Direction where
  | leftToRight
  | rightToLeft
  | arabicDigit
  | europeanDigit
  | neutral
  | mark
deriving DecidableEq

namespace Direction

/-- The direction of a character. -/
def ofChar (c : Char) : Direction :=
  if Run.anyHolds rightToLeftRuns c then rightToLeft
  else if Run.anyHolds arabicDigitRuns c then arabicDigit
  else if Run.anyHolds europeanDigitRuns c then europeanDigit
  else if Run.anyHolds neutralRuns c then neutral
  else if Text.isNonspacing c && !Run.anyHolds leftToRightMarkRuns c then mark
  else leftToRight

/-- Whether a domain with such a character needs labels of one direction. -/
def runsBackwards (d : Direction) : Bool := d == rightToLeft || d == arabicDigit

/-- Whether a label that begins with a direction keeps to it. What comes before the marks at its end
must be a letter of that direction or a digit, and it has digits of one kind only. -/
def fits : List Direction → Bool
  | [] => true
  | first :: rest =>
    let last := ((rest.reverse.dropWhile (· == mark)).head?).getD first
    match first with
    | leftToRight =>
      rest.all (fun d => !d.runsBackwards) && (last == leftToRight || last == europeanDigit)
    | rightToLeft =>
      rest.all (· != leftToRight) && last != neutral &&
        !(rest.contains arabicDigit && rest.contains europeanDigit)
    | _ => false

end Direction

/-- Letters that join the one after them. -/
def joinsNext (c : Char) : Bool :=
  Run.anyHolds dualJoiningRuns c || Run.anyHolds leftJoiningRuns c

/-- Letters that join the one before them. -/
def joinsPrevious (c : Char) : Bool :=
  Run.anyHolds dualJoiningRuns c || Run.anyHolds rightJoiningRuns c

/-- Characters that letters join across. -/
def isTransparent (c : Char) : Bool := Text.isNonspacing c || c.toNat == 0x1E94B

/-- Marks that take the vowel from the letter before them. -/
def isVowelKiller (c : Char) : Bool := Text.combiningClass c == 9

/-- Whether the joiners in a label change anything; `before` holds what has been passed, nearest
first. -/
def joinersFit (before : List Char) : List Char → Bool
  | [] => true
  | c :: rest =>
    let afterKiller := before.head?.any isVowelKiller
    let between :=
      (before.dropWhile isTransparent).head?.any joinsNext &&
        (rest.dropWhile isTransparent).head?.any joinsPrevious
    (if c = '\u200c' then afterKiller || between
      else if c = '\u200d' then afterKiller
      else true) && joinersFit (c :: before) rest

/-- Whether a domain may have the label. -/
def isLabel (label : List Char) : Bool :=
  !label.head?.any Text.isMark && joinersFit [] label

/-- Whether labels may stand in one domain. -/
def labelsFit (labels : List (List Char)) : Bool :=
  let directions := labels.map (·.map Direction.ofChar)
  !directions.any (·.any Direction.runsBackwards) || directions.all Direction.fits

end ApiScreens.Url
