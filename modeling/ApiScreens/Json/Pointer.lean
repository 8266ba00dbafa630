import ApiScreens.Json.Basic
import ApiScreens.Text.Split

/-!
# Pointers into JSON values

A pointer is a text of tokens, each after a slash; inside a token `~` is written `~0` and a slash
`~1`. It names the node reached from the root by one token after the other. A reference is a
pointer after a number sign.
-/

namespace ApiScreens.Json

/-- The text of a pointer. -/
abbrev Pointer := String

namespace Pointer

/-- Writes the characters of a token. -/
def escapeChars (token : List Char) : List Char :=
  token.flatMap fun c => match c with
    | '~' => ['~', '0']
    | '/' => ['~', '1']
    | c => [c]

/-- Reads the characters of a token; a `~` before any other character stands for itself. -/
def unescapeChars : List Char → List Char
  | [] => []
  | '~' :: '0' :: rest => '~' :: unescapeChars rest
  | '~' :: '1' :: rest => '/' :: unescapeChars rest
  | c :: rest => c :: unescapeChars rest

/-- Writes a token. -/
def escape (token : String) : String := String.ofList (escapeChars token.toList)

/-- Reads a token. -/
def unescape (token : String) : String := String.ofList (unescapeChars token.toList)

/-- The pointer to a child. -/
def push (pointer : Pointer) (token : String) : Pointer := pointer ++ "/" ++ escape token

/-- The pointer reached by one token after the other. -/
def pushAll (pointer : Pointer) (tokens : List String) : Pointer := tokens.foldl push pointer

/-- The pointer that tokens make up. -/
def ofTokens (tokens : List String) : Pointer := pushAll "" tokens

/-- The tokens of a pointer: none for the root; `none` where the first slash is missing. -/
def tokens? (pointer : Pointer) : Option (List String) :=
  match pointer.toList with
  | [] => some []
  | '/' :: rest => some ((Text.splitChars '/' rest).map fun t => String.ofList (unescapeChars t))
  | _ => none

/-- The index that a token writes: decimal digits below `2 ^ 64`, perhaps after a plus sign. -/
def index? (token : String) : Option Nat :=
  let digits := match token.toList with
    | '+' :: ds => ds
    | ds => ds
  let n := Number.Literal.natOf digits
  if digits ≠ [] ∧ digits.all Char.isDigit ∧ n < UInt64.size then some n else none

end Pointer

/-- The child that a token names. -/
def child? : Json → String → Option Json
  | object members, token => Keyed.get? members token
  | array items, token => (Pointer.index? token).bind (items[·]?)
  | _, _ => none

/-- The node reached from a value by one token after the other. -/
def descend? (value : Json) (tokens : List String) : Option Json :=
  tokens.foldlM child? value

/-- The node at a pointer. -/
def lookup? (root : Json) (pointer : Pointer) : Option Json :=
  pointer.tokens?.bind root.descend?

/-- The pointer of a reference, which is the text after its number sign. -/
def referencePointer? (reference : String) : Option Pointer :=
  match reference.toList with
  | '#' :: rest => some (String.ofList rest)
  | _ => none

/-- Whether a reference points into its own document. -/
def isLocalReference (reference : String) : Bool :=
  ['#', '/'].isPrefixOf reference.toList

/-- The node that a reference names. -/
def target? (root : Json) (reference : String) : Option Json :=
  (referencePointer? reference).bind root.lookup?

/-- The reference that a node consists of: an object with the string member `$ref`. -/
def reference? (node : Json) : Option String :=
  (node.get? "$ref").bind string?

theorem unescapeChars_escapeChars (t : List Char) :
    Pointer.unescapeChars (Pointer.escapeChars t) = t := by
  induction t with
  | nil => rfl
  | cons c rest ih =>
    by_cases h0 : c = '~'
    · subst h0; simpa [Pointer.escapeChars, Pointer.unescapeChars] using ih
    · by_cases h1 : c = '/'
      · subst h1; simpa [Pointer.escapeChars, Pointer.unescapeChars] using ih
      · simp only [Pointer.escapeChars, List.flatMap_cons] at ih ⊢
        simp only [List.cons_append, List.nil_append]
        rw [Pointer.unescapeChars]
        · rw [ih]
        · intro rest h _; exact h0 h
        · intro rest h _; exact h0 h

end ApiScreens.Json
