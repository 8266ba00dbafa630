import ApiScreens.Text.Case
import ApiScreens.Text.Split
import ApiScreens.Url.DomainTable
import ApiScreens.Url.Label
import ApiScreens.Url.Punycode

/-!
# Names of hosts

The name of a host in the ASCII letters in which it is looked up. Characters are replaced by their
usual forms, the text is composed, and labels with other characters than those of ASCII are written
in Punycode.
-/

namespace ApiScreens.Url

open Text (Run)

/-- The form that the table of domains gives a character. -/
def listedForm? (c : Char) : Option (List Char) := do
  let (run, forms) ← domainForms.find? (·.1.holds c.toNat)
  (Text.splitChars ' ' forms.toList)[(c.toNat - run.first) / run.step]?

/-- What stands for a character in a domain, unless that may not hold it. -/
def domainForm? (c : Char) : Option (List Char) :=
  if c.toNat < 0x80 then some [Text.asciiLowercase c]
  else if Text.isControl c || Text.isUnassigned c || Run.anyHolds refusedRuns c then none
  else if Run.anyHolds ignoredRuns c then some []
  else if Run.anyHolds distinctRuns c then some [c]
  else match listedForm? c with
    | some form => some form
    | none => some (Text.lowercaseChar c)

/-- Characters of ASCII that no domain may hold. -/
def isForbiddenInDomain (c : Char) : Bool :=
  c.toNat ≤ 0x20 || c.toNat == 0x7F || "%#/:<>?@[\\]^|".toList.contains c

/-- What begins labels in Punycode. -/
def punycodeMark : List Char := ['x', 'n', '-', '-']

/-- A label as it is shown. What is written in Punycode has to need it and be in its usual form. -/
def shownLabel? (label : List Char) : Option (List Char) :=
  if punycodeMark.isPrefixOf label then do
    let shown ← Punycode.decode? (label.drop punycodeMark.length)
    guard (shown.any (0x80 ≤ ·.toNat) && !punycodeMark.isPrefixOf shown)
    guard (shown.all (fun c => domainForm? c == some [c]) && Text.composed shown == shown)
    some shown
  else some label

/-- A label as it is looked up. -/
def writtenLabel (shown : List Char) : List Char :=
  if shown.all (·.toNat < 0x80) then shown else punycodeMark ++ Punycode.encode shown

/-- The name of a host as it is looked up. -/
def domain? (text : List Char) : Option (List Char) := do
  let forms ← text.mapM domainForm?
  let labels ← (Text.splitChars '.' (Text.composed forms.flatten)).mapM shownLabel?
  guard (labels.all isLabel && labelsFit labels)
  let name := ['.'].intercalate (labels.map writtenLabel)
  guard (!name.any isForbiddenInDomain)
  some name

end ApiScreens.Url
