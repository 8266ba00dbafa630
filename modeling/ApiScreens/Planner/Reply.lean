import ApiScreens.Json.Reader
import ApiScreens.Text.Blank
import ApiScreens.Text.Split

/-!
# Replies of a language model

A reply is read as JSON if it is JSON by itself. If not, the value is looked for in the first
fenced block: after the first line of the block, or, where the block starts on the line of its
fence, after the name of a language.
-/

namespace ApiScreens.Reply

/-- The mark that fences a block. -/
def fence : List Char := ['`', '`', '`']

/-- Whether the characters show a brace after blank ones. -/
def opensObject (cs : List Char) : Bool :=
  match cs.dropWhile Text.isBlank with
  | c :: _ => c == '\x7b'
  | [] => false

/-- What follows the name of a language. -/
def afterName (cs : List Char) : List Char := cs.dropWhile Char.isAlphanum

/-- What a block holds besides the name of a language. -/
def blockBody (block : List Char) : List Char :=
  match Text.cutAt? ['\n'] block with
  | some (line, rest) => if opensObject line then afterName block else rest
  | none => afterName block

/-- What stands between the first two fences. -/
def block? (reply : List Char) : Option (List Char) := do
  let (_, inside) ← Text.cutAt? fence reply
  let (block, _) ← Text.cutAt? fence inside
  return block

/-- The JSON value that a text is once blank characters around it are cut off. -/
def readTrimmed? (text : String) : Option Json := Json.read? (Text.trim text)

/-- The value that a reply gives. -/
def value? (reply : String) : Option Json :=
  match readTrimmed? reply with
  | some v => some v
  | none => do
    let block ← block? (Text.trim reply).toList
    readTrimmed? (String.ofList (blockBody block))

end ApiScreens.Reply
