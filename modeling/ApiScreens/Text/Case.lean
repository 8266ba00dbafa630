import ApiScreens.Text.LowercaseTable
import ApiScreens.Text.UppercaseTable

/-!
# Letter case

Unicode's full case mappings of single characters, and of whole texts. The only mapping that
depends on its surroundings is that of the capital sigma, which ends a word as `ς`.
-/

namespace ApiScreens.Text

/-- The property Lowercase. -/
def isLowercase (c : Char) : Bool := Run.anyHolds lowercaseRuns c

/-- The property Uppercase. -/
def isUppercase (c : Char) : Bool := Run.anyHolds uppercaseRuns c

/-- The property Cased. -/
def isCased (c : Char) : Bool := Run.anyHolds casedRuns c

/-- The property Case_Ignorable. -/
def isCaseIgnorable (c : Char) : Bool := Run.anyHolds caseIgnorableRuns c

/-- An ASCII capital becomes the small letter, all other characters stay. -/
def asciiLowercase (c : Char) : Char :=
  if 'A' ≤ c ∧ c ≤ 'Z' then Char.ofNat (c.toNat + 32) else c

/-- An ASCII small letter becomes the capital, all other characters stay. -/
def asciiUppercase (c : Char) : Char :=
  if 'a' ≤ c ∧ c ≤ 'z' then Char.ofNat (c.toNat - 32) else c

/-- The lower-case form of a character, taken by itself. -/
def lowercaseChar (c : Char) : List Char :=
  if c.toNat < 0x80 then [asciiLowercase c]
  else if c.toNat = 0x130 then ['i', '\u0307']
  else match Shift.target? lowercaseShifts c with
    | some d => [d]
    | none => [c]

/-- The upper-case form of a character, taken by itself. -/
def uppercaseChar (c : Char) : List Char :=
  if c.toNat < 0x80 then [asciiUppercase c]
  else match uppercaseExpansions.find? (·.1 == c.toNat) with
    | some (_, forms) => forms.map Char.ofNat
    | none => match Shift.target? uppercaseShifts c with
      | some d => [d]
      | none => [c]

/-- Whether a cased character comes first once case-ignorable characters are passed over. -/
def casedComesFirst (cs : List Char) : Bool :=
  match cs.dropWhile isCaseIgnorable with
  | c :: _ => isCased c
  | [] => false

/-- The lower-case form of a text; `before` holds what has been passed, nearest first. -/
def lowercaseFrom (before : List Char) : List Char → List Char
  | [] => []
  | 'Σ' :: rest =>
    (if casedComesFirst before && !casedComesFirst rest then 'ς' else 'σ') ::
      lowercaseFrom ('Σ' :: before) rest
  | c :: rest => lowercaseChar c ++ lowercaseFrom (c :: before) rest

/-- The lower-case form of a text. -/
def lowercase (s : String) : String :=
  String.ofList (lowercaseFrom [] s.toList)

end ApiScreens.Text
