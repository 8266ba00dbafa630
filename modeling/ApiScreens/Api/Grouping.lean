import ApiScreens.Api.PathTemplate
import ApiScreens.Text.Slug

/-!
# Grouping operations by resource

Operations belong to the resource of their tag if every operation has exactly one, and to that of a
segment of their path otherwise.
-/

namespace ApiScreens

/-- What tells the resource of an operation. -/
inductive Grouping where
  | tag
  | path
deriving DecidableEq

namespace Grouping

/-- The name of a grouping. -/
def name : Grouping → String
  | tag => "tag"
  | path => "path"

/-- The grouping of operations with these tags. -/
def choose (tags : List (List String)) : Grouping :=
  if !tags.isEmpty && tags.all (·.length == 1) then tag else path

/-- The segments at the front of every path that name no resource. -/
def defaultPrefixes : List String := ["api", "v1", "v2", "v3"]

/-- Whether two texts differ at most in the case of ASCII letters. -/
def sameButCase (a b : List Char) : Bool :=
  a.map Text.asciiLowercase == b.map Text.asciiLowercase

/-- The segment of a path that names its resource, in lower case: the first one after the leading
prefixes that does not stand in braces. -/
def segment (path : String) (prefixes : List String) : String :=
  let segments := (Text.splitChars '/' path.toList).filter (!·.isEmpty)
  let rest := segments.dropWhile fun s => prefixes.any fun p => sameButCase p.toList s
  match rest.find? (!PathTemplate.isBraced ·) with
  | some s => Text.lowercase (String.ofList s)
  | none => "resource"

/-- The key and the name of the resource of an operation. -/
def resource (grouping : Grouping) (prefixes tags : List String) (path : String) :
    String × String :=
  match grouping with
  | tag =>
    let name := tags.headD ""
    (Text.slug name, name)
  | Grouping.path =>
    let name := segment path prefixes
    (Text.slug name, Text.capitalize name)

end Grouping

end ApiScreens
