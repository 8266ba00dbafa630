import ApiScreens.Text.Utf8

/-!
# Tags

A tag is a sequence of bytes, since percent signs in it may spell bytes that are no text. It holds
no null byte: whatever is written after one does not belong to the tag.
-/

namespace ApiScreens.Yaml

/-- The bytes before the first null byte. -/
def beforeNull (bytes : List UInt8) : List UInt8 := bytes.takeWhile (· != 0)

/-- A tag. -/
structure Tag where
  bytes : List UInt8
deriving DecidableEq

namespace Tag

/-- The tag with a text. -/
def ofString (s : String) : Tag := ⟨Text.utf8 s.toList⟩

/-- A tag of the standard. -/
def standard (name : String) : Tag := ofString ("tag:yaml.org,2002:" ++ name)

/-- Whether the tag begins with an exclamation mark. -/
def isLocal (t : Tag) : Bool := t.bytes.head? == some 0x21

/-- The name that a local tag gives: the text after its exclamation mark, or the mark if nothing
follows it. Bytes that are no text give no name. -/
def name? (t : Tag) : Option String :=
  match t.bytes with
  | [0x21] => some "!"
  | 0x21 :: name => (Text.ofUtf8? name).map String.ofList
  | _ => none

end Tag

end ApiScreens.Yaml
