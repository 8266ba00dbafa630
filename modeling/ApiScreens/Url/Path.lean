import ApiScreens.Url.Escape

/-!
# Paths of addresses

A path is a sequence of segments. Segments of one or two dots are resolved, but two dots do not leave
a segment that names a drive.
-/

namespace ApiScreens.Url

/-- Whether a character separates segments; a backslash does where the scheme is of the web. -/
def isSlash (isSpecial : Bool) (c : Char) : Bool := c == '/' || (isSpecial && c == '\\')

/-- Whether a segment stands for the directory that it is in. -/
def isDot (segment : List Char) : Bool :=
  [".", "%2e"].contains (String.ofList (segment.map Char.toLower))

/-- Whether a segment stands for the directory above. -/
def isDotDot (segment : List Char) : Bool :=
  ["..", ".%2e", "%2e.", "%2e%2e"].contains (String.ofList (segment.map Char.toLower))

/-- Whether a segment names a drive: a letter and a colon or a bar, before the end or a
backslash. -/
def isDrive : List Char → Bool
  | letter :: mark :: rest =>
    letter.isAlpha && (mark == ':' || mark == '|') && (rest.isEmpty || rest.head? == some '\\')
  | _ => false

/-- Leaves the last segment, unless it is a drive; segments are given last one first. -/
def leave : List (List Char) → List (List Char)
  | [] => []
  | s :: rest => if isDrive s then s :: rest else rest

/-- The segments of a path with dot segments resolved; `done` holds those before, last first. -/
def resolve (done : List (List Char)) : List (List Char) → List (List Char)
  | [] => done.reverse
  | [last] =>
    if isDotDot last then ([] :: leave done).reverse
    else if isDot last then ([] :: done).reverse
    else (last :: done).reverse
  | s :: rest =>
    if isDotDot s then resolve (leave done) rest
    else if isDot s then resolve done rest
    else resolve (s :: done) rest

/-- The pieces of a path between its slashes. -/
def segments (isSpecial : Bool) : List Char → List (List Char)
  | [] => [[]]
  | c :: rest =>
    if isSlash isSpecial c then [] :: segments isSpecial rest
    else match segments isSpecial rest with
      | s :: more => (c :: s) :: more
      | [] => [[c]]

/-- The text of a path with these segments. -/
def pathText (segments : List (List Char)) : List Char :=
  '/' :: ['/'].intercalate (segments.map (escape escapedInPath))

/-- The segments of a path after its first slash, if it has one. -/
def resolved (isSpecial : Bool) (cs : List Char) : List (List Char) :=
  let cs := if cs.head?.any (isSlash isSpecial) then cs.drop 1 else cs
  resolve [] (segments isSpecial cs)

/-- The path of a file: empty segments at its front are dropped, and a drive is written with a
colon. -/
def filePath (cs : List Char) : List (List Char) :=
  match (resolved true cs).dropWhile List.isEmpty with
  | [] => [[]]
  | [letter, mark] :: rest =>
    if isDrive [letter, mark] then [letter, ':'] :: rest else [letter, mark] :: rest
  | path => path

end ApiScreens.Url
