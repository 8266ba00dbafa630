import ApiScreens.Url.Host
import ApiScreens.Url.Path

/-!
# Addresses

The address of a resource in its final form: equal addresses have equal texts. A scheme of the web
needs a host; another one may do without, and then everything up to the query is its path.
-/

namespace ApiScreens

/-- Where a resource is served: the host and the number of its service, if that is not the usual one
of the scheme. The name and the password of a user are empty if none is given. -/
structure Authority where
  user : List Char
  password : List Char
  host : List Char
  service : Option Nat
deriving DecidableEq

/-- An address. -/
structure Url where
  scheme : String
  authority : Option Authority
  path : List Char
  query : Option (List Char)
  fragment : Option (List Char)
deriving DecidableEq

namespace Authority

/-- Who asks, as the text of an address says it. -/
def credentials (a : Authority) : List Char :=
  if a.user.isEmpty && a.password.isEmpty then []
  else a.user ++ (if a.password.isEmpty then [] else ':' :: a.password) ++ ['@']

/-- The host with the number of its service. -/
def server (a : Authority) : List Char :=
  a.host ++ ((a.service.map fun n => ':' :: Nat.toDigits 10 n).getD [])

end Authority

namespace Url

/-- What a request line names. -/
def target (u : Url) : String :=
  String.ofList (u.path ++ ((u.query.map ('?' :: ·)).getD []))

/-- The text of an address. Two slashes at the front of a path are kept apart from those of an
authority. -/
def text (u : Url) : String :=
  let place := match u.authority with
    | some a => ['/', '/'] ++ a.credentials ++ a.server
    | none => if ['/', '/'].isPrefixOf u.path then ['/', '.'] else []
  u.scheme ++ ":" ++ String.ofList place ++ u.target ++
    String.ofList ((u.fragment.map ('#' :: ·)).getD [])

/-- The number of the service that a scheme asks for, if the scheme is of the web. -/
def usualService? : String → Option Nat
  | "http" | "ws" => some 80
  | "https" | "wss" => some 443
  | "ftp" => some 21
  | _ => none

/-- Whether the characters of a path and a host have the meaning that they have on the web. -/
def isSpecial (scheme : String) : Bool := (usualService? scheme).isSome || scheme == "file"

/-- The scheme in front of a colon, and what follows. -/
def schemeAndRest? (cs : List Char) : Option (String × List Char) := do
  let (name, rest) := cs.span (· != ':')
  guard (name.head?.any Char.isAlpha && !rest.isEmpty)
  guard (name.all fun c => c.isAlphanum || c == '+' || c == '-' || c == '.')
  some (String.ofList (name.map Char.toLower), rest.drop 1)

/-- The text before the last of some characters and the text after it. -/
def cutAtLast? (mark : Char) (cs : List Char) : Option (List Char × List Char) :=
  match cs.reverse.span (· != mark) with
  | (after, _ :: before) => some (before.reverse, after.reverse)
  | (_, []) => none

/-- The host, up to a colon outside brackets, and the text after that colon. -/
def hostAndService (inside : Bool) : List Char → List Char × Option (List Char)
  | [] => ([], none)
  | c :: rest =>
    if c = ':' ∧ !inside then ([], some rest)
    else
      let inside := if c = '[' then true else if c = ']' then false else inside
      let (host, service) := hostAndService inside rest
      (c :: host, service)

/-- The number of a service; none is the scheme's own. -/
def service? (scheme : String) (digits : List Char) : Option (Option Nat) := do
  guard (digits.all Char.isDigit)
  let n ← Text.number? 10 digits
  guard (n < 65536)
  some (if digits.isEmpty || some n == usualService? scheme then none else some n)

/-- The authority of an address, and the start of a path that a backslash after the number of a
service makes. -/
def authority? (scheme : String) (cs : List Char) : Option (Authority × List Char) := do
  let (user, place) := (cutAtLast? '@' cs).getD ([], cs)
  let (name, password) := user.span (· != ':')
  let (name, password) := (escape escapedInUser name, escape escapedInUser (password.drop 1))
  let (host, service) := hostAndService false place
  let host ← if isSpecial scheme then webHost? host else otherHost? host
  guard (!host.isEmpty ||
    (service.isNone && name.isEmpty && password.isEmpty && cs.head? != some '@'))
  let (digits, path) := (service.getD []).span (· != '\\')
  some (⟨name, password, host, ← service? scheme digits⟩, if path.isEmpty then [] else '/' :: path)

/-- The host of a file and the path there. A drive is no host, and the machine itself goes without a
name. -/
def fileHostAndPath? (cs : List Char) : Option (List Char × List Char) := do
  let (host, path) := cs.span fun c => !(isSlash true c)
  if isDrive host && host.length = 2 then some ([], cs)
  else if host.isEmpty then some ([], path)
  else
    let host ← webHost? host
    some (if host = "localhost".toList then [] else host, path)

/-- The authority and the path after the colon of a scheme. -/
def hierarchy? (scheme : String) (cs : List Char) : Option (Option Authority × List Char) := do
  let slashes := (cs.takeWhile (isSlash (isSpecial scheme))).length
  if scheme = "file" then
    let (host, path) ← if slashes < 2 then some ([], cs) else fileHostAndPath? (cs.drop 2)
    let path := filePath path
    let host := if path.head?.any isDrive then [] else host
    some (some ⟨[], [], host, none⟩, pathText path)
  else if isSpecial scheme || 2 ≤ slashes then
    let special := isSpecial scheme
    let (authority, path) :=
      (cs.drop (if special then slashes else 2)).span fun c => !(isSlash special c)
    let (authority, start) ← authority? scheme authority
    let path := start ++ path
    some (some authority,
      if !special && path.isEmpty then [] else pathText (resolved special path))
  else if slashes = 1 then some (none, pathText (resolved false cs))
  else some (none, escape [] cs)

/-- Reads an address. Blanks and controls around it count for nothing, nor do tabs and line ends in
it. -/
def ofText? (text : String) : Option Url := do
  let isOuter (c : Char) : Bool := c.toNat ≤ 0x20
  let cs := ((text.toList.dropWhile isOuter).reverse.dropWhile isOuter).reverse
  let (scheme, rest) ← schemeAndRest? (cs.filter fun c => c != '\t' && c != '\n' && c != '\r')
  let (rest, fragment) := rest.span (· != '#')
  let (rest, query) := rest.span (· != '?')
  let (authority, path) ← hierarchy? scheme rest
  let part (special : List Char) (cs : List Char) : Option (List Char) :=
    if cs.isEmpty then none else some (escape special (cs.drop 1))
  some ⟨scheme, authority, path, part (escapedInQuery (isSpecial scheme)) query,
    part escapedInFragment fragment⟩

/-- Whether escapes spell a text. -/
def spellsText (cs : List Char) : Bool := (Text.ofUtf8? (unescape cs)).isSome

/-- The address without a user, as requests are sent to it. A name that spells no text stays, and so
does such a password without a name. -/
def withoutUser (u : Url) : Url :=
  match u.authority with
  | some a =>
    if !spellsText a.user || (a.user.isEmpty && !spellsText a.password) then u
    else { u with authority := some { a with user := [], password := [] } }
  | none => u

/-- Whether a host is written in characters that a request may name. -/
def isRequestHost (host : List Char) : Bool :=
  host.all fun c => c.isAlphanum || "!$&'()*+,-.:;=[]_~".toList.contains c

/-- Whether a request may be sent to the address: the scheme, the host and the length allow it. -/
def isRequestable (u : Url) : Bool :=
  (u.scheme == "http" || u.scheme == "https") && u.authority.any (isRequestHost ·.host) &&
    u.text.utf8ByteSize < 65535

end Url

end ApiScreens
