import ApiScreens.Text.Split

/-!
# Path templates

The segments of a path between its slashes; a segment in braces is a parameter.
-/

namespace ApiScreens.PathTemplate

/-- Whether the segment stands in braces. -/
def isBraced (segment : List Char) : Bool :=
  segment.head? == some '\x7b' && segment.getLast? == some '\x7d'

/-- The name in a segment that is a parameter; it is not empty. -/
def parameter? (segment : List Char) : Option String :=
  if 2 < segment.length ∧ isBraced segment then
    some (String.ofList ((segment.drop 1).dropLast))
  else none

/-- The parameters of a path, in their order. -/
def parameters (path : String) : List String :=
  (Text.splitChars '/' path.toList).filterMap parameter?

end ApiScreens.PathTemplate
