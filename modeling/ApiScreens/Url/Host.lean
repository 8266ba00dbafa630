import ApiScreens.Url.Address
import ApiScreens.Url.Domain
import ApiScreens.Url.Escape

/-!
# Hosts

The host of an address in its final form. A numeric address has one form, however it is written; a
name is looked up in ASCII. Schemes that are not of the web take names as they are.
-/

namespace ApiScreens.Url

/-- The address of eight pieces between brackets, of which the first has been read. -/
def bracketed? (rest : List Char) : Option (List Char) := do
  guard (rest.getLast? = some ']')
  let pieces ← eightPieces? rest.dropLast
  some ('[' :: textOfPieces pieces ++ [']'])

/-- A host of the web. -/
def webHost? : List Char → Option (List Char)
  | '[' :: rest => bracketed? rest
  | cs => do
    let name ← domain? (← Text.ofUtf8? (unescape cs))
    guard (!name.isEmpty)
    if isAddress name then (fourBytes? name).map textOfBytes else some name

/-- Characters that no host may hold, whatever the scheme. -/
def isForbiddenInHost (c : Char) : Bool :=
  "\x00\t\n\r #/:<>?@[\\]^|".toList.contains c

/-- A host of another scheme. -/
def otherHost? : List Char → Option (List Char)
  | '[' :: rest => bracketed? rest
  | cs => if cs.any isForbiddenInHost then none else some (escape [] cs)

end ApiScreens.Url
