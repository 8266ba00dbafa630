import ApiScreens.Text.Utf8

/-!
# Escapes in addresses

Characters that may not stand by themselves are written by their bytes, each with a percent sign.
Every part of an address has its own set of them; controls and characters beyond ASCII belong to all
sets.
-/

namespace ApiScreens.Url

/-- A character by the escapes of its bytes. -/
def percentBytes (c : Char) : List Char :=
  (Text.utf8 [c]).flatMap fun b =>
    ['%', (Nat.digitChar (b.toNat / 16)).toUpper, (Nat.digitChar (b.toNat % 16)).toUpper]

/-- Escapes the characters that may not stand by themselves. -/
def escape (special : List Char) (cs : List Char) : List Char :=
  cs.flatMap fun c =>
    if c.toNat < 0x20 || 0x7F ≤ c.toNat || special.contains c then percentBytes c else [c]

/-- The bytes of a text with escapes. -/
def unescape : List Char → List UInt8
  | [] => []
  | '%' :: a :: b :: rest =>
    match Text.byteOfDigits? a b with
    | some byte => byte :: unescape rest
    | none => Text.utf8 ['%'] ++ unescape (a :: b :: rest)
  | c :: rest => Text.utf8 [c] ++ unescape rest

/-- What a fragment escapes. -/
def escapedInFragment : List Char := [' ', '"', '<', '>', '`']

/-- What a path escapes. -/
def escapedInPath : List Char := escapedInFragment ++ ['#', '?', '\x7b', '\x7d']

/-- What the name and the password of a user escape. -/
def escapedInUser : List Char := escapedInPath ++ "/:;=@[\\]^|".toList

/-- What a query escapes; a scheme of the web adds the apostrophe. -/
def escapedInQuery (isSpecial : Bool) : List Char :=
  [' ', '"', '#', '<', '>'] ++ (if isSpecial then ['\''] else [])

end ApiScreens.Url
