import ApiScreens.Text.Blank
import ApiScreens.Text.CategoryTable

/-!
# General categories

What a character is by Unicode's general categories, as far as messages and the names of hosts ask
for it.
-/

namespace ApiScreens.Text

/-- Controls. -/
def isControl (c : Char) : Bool := c.toNat < 0x20 || (0x7F ≤ c.toNat && c.toNat < 0xA0)

/-- Code points without a character. -/
def isUnassigned (c : Char) : Bool := Run.anyHolds unassignedRuns c

/-- Marks that take no room of their own. -/
def isNonspacing (c : Char) : Bool := Run.anyHolds nonspacingRuns c

/-- Marks of every kind. -/
def isMark (c : Char) : Bool := isNonspacing c || Run.anyHolds spacingRuns c

/-- Letters of the Korean script that stand for missing ones and show nothing. -/
def isFiller (c : Char) : Bool :=
  c == '\u115f' || c == '\u1160' || c == '\u3164' || c == '\uffa0'

/-- Characters without a form of their own: they show nothing, or only on the character before
them. -/
def isInvisible (c : Char) : Bool :=
  isControl c || Run.anyHolds formatRuns c || isUnassigned c || (isBlank c && c != ' ') ||
    isNonspacing c || Run.anyHolds extendingRuns c || isFiller c

end ApiScreens.Text
