import ApiScreens.Yaml.Token.Scalar
import ApiScreens.Yaml.Token.Tag

/-!
# From YAML texts to tokens

The lexer turns changes of indentation into the starts and ends of block collections. A node turns
out to be a key only when a colon follows it, so the lexer remembers where a pending key began, one
place for each open flow collection, and puts the key token there later. A key that needs more than
one line or 1024 bytes is none.
-/

namespace ApiScreens.Yaml

/-- Where a node that may turn out to be a key began. -/
structure PendingKey where
  required : Bool
  number : Nat
  index : Nat
  line : Nat
  column : Nat

/-- The state between two tokens. Tokens are kept newest first, each with the tokens to be put
before it; pending keys and indentations innermost first. -/
structure Lexer where
  spots : List Spot
  tokens : List (List Token × Token)
  count : Nat
  indent : Int
  indents : List Int
  keys : List (Option PendingKey)
  keyAllowed : Bool

namespace Lexer

/-- Whether a flow collection is open. -/
def inFlow (l : Lexer) : Bool := l.keys.length > 1

/-- Adds a token. -/
def emit (l : Lexer) (t : Token) : Lexer :=
  { l with tokens := ([], t) :: l.tokens, count := l.count + 1 }

/-- Puts tokens before the token of a number. -/
def openBefore (l : Lexer) (number : Nat) (opening : List Token) : Lexer :=
  { l with tokens := l.tokens.modify (l.count - 1 - number) fun (_, t) => (opening, t) }

/-- Opens a block collection at a column that lies deeper than the current one. -/
def openBlock (l : Lexer) (column : Nat) (start : Token) : Lexer :=
  if !l.inFlow && l.indent < column then
    { l.emit start with indent := column, indents := l.indent :: l.indents }
  else l

/-- Closes the block collections that are indented deeper than a column. -/
def closeBlocks (l : Lexer) (column : Int) : Lexer :=
  if l.inFlow then l
  else
    let ended := (l.indent :: l.indents).takeWhile (column < ·)
    let left := (l.indent :: l.indents).dropWhile (column < ·)
    { ended.foldl (fun l _ => l.emit .blockEnd) l with
      indent := left.headD (-1), indents := left.drop 1 }

/-- Gives up the pending key of the innermost collection; a required one must not be lost. -/
def dropKey? (l : Lexer) : Option Lexer :=
  match l.keys with
  | some k :: rest => if k.required then none else some { l with keys := none :: rest }
  | _ => some l

/-- Remembers the next token as a pending key, where keys are allowed. -/
def saveKey? (l : Lexer) : Option Lexer :=
  if !l.keyAllowed then some l
  else do
    let l ← l.dropKey?
    match l.spots with
    | [] => some l
    | s :: _ =>
      let key : PendingKey :=
        ⟨!l.inFlow && l.indent == s.column, l.count, s.index, s.line, s.column⟩
      some { l with keys := some key :: l.keys.drop 1 }

/-- Gives up the pending keys that are too far back. -/
def dropStaleKeys? (l : Lexer) : Option Lexer :=
  match l.spots with
  | [] => some l
  | s :: _ => do
    let keys ← l.keys.mapM fun
      | none => some none
      | some k =>
        if k.line < s.line || k.index + 1024 < s.index then
          if k.required then none else some none
        else some (some k)
    some { l with keys }

/-- Drops blanks, comments and line ends up to the next token; answers whether a key may begin
there. A tab counts as a blank only where no key may begin, a byte order mark only where a line
begins. -/
def skipTo (inFlow : Bool) (comment keyAllowed : Bool) : List Spot → Bool × List Spot
  | [] => (keyAllowed, [])
  | s :: rest =>
    if isBreak s.char then skipTo inFlow false (keyAllowed || !inFlow) rest
    else if isEnd s.char then (keyAllowed, s :: rest)
    else if comment then skipTo inFlow true keyAllowed rest
    else if s.column = 0 ∧ s.char = '\ufeff' then skipTo inFlow false keyAllowed rest
    else if s.char = ' ' ∨ (s.char = '\t' ∧ (inFlow || !keyAllowed)) then
      skipTo inFlow false keyAllowed rest
    else if s.char = '#' then skipTo inFlow true keyAllowed rest
    else (keyAllowed, s :: rest)

/-- Adds a token of so many characters. -/
def take (l : Lexer) (n : Nat) (t : Token) : Lexer :=
  { l.emit t with spots := l.spots.drop n }

/-- A token that ends all block collections. -/
def atMargin? (l : Lexer) : Option Lexer := do
  let l ← (l.closeBlocks (-1)).dropKey?
  some { l with keyAllowed := false }

/-- The start of a flow collection. -/
def flowStart? (l : Lexer) (t : Token) : Option Lexer := do
  let l ← l.saveKey?
  some ({ l with keys := none :: l.keys, keyAllowed := true }.take 1 t)

/-- The end of a flow collection. -/
def flowEnd? (l : Lexer) (t : Token) : Option Lexer := do
  let l ← l.dropKey?
  let keys := if l.inFlow then l.keys.drop 1 else l.keys
  some ({ l with keys, keyAllowed := false }.take 1 t)

/-- A comma between the parts of a flow collection. -/
def flowEntry? (l : Lexer) : Option Lexer := do
  let l ← l.dropKey?
  some ({ l with keyAllowed := true }.take 1 .flowEntry)

/-- The mark of a block collection's entry or of an explicit key. -/
def blockMark? (l : Lexer) (start t : Token) (keyAllowed : Bool) : Option Lexer := do
  guard (l.inFlow || l.keyAllowed)
  let l ← (l.openBlock (columnOf l.spots) start).dropKey?
  some ({ l with keyAllowed }.take 1 t)

/-- The colon of a value, which may settle that a pending key is one. -/
def valueMark? (l : Lexer) : Option Lexer :=
  match l.keys with
  | some k :: rest =>
    let deeper := !l.inFlow && l.indent < k.column
    let l := l.openBefore k.number (if deeper then [.blockMappingStart, .key] else [.key])
    let l := if deeper then { l with indent := k.column, indents := l.indent :: l.indents } else l
    some ({ l with keys := none :: rest, keyAllowed := false }.take 1 .value)
  | _ => do
    guard (l.inFlow || l.keyAllowed)
    let l := l.openBlock (columnOf l.spots) .blockMappingStart
    some ({ l with keyAllowed := !l.inFlow }.take 1 .value)

/-- An anchor, an alias or a tag. -/
def property? (l : Lexer) (scan : List Spot → Option (Token × List Spot)) : Option Lexer := do
  let l ← l.saveKey?
  let (t, rest) ← scan l.spots
  some { l.emit t with spots := rest, keyAllowed := false }

/-- A plain or quoted scalar. -/
def scalar? (l : Lexer) (style : ScalarStyle) (scan : List Spot → Option Scanned) : Option Lexer := do
  let l ← l.saveKey?
  let s ← scan l.spots
  some { l.emit (.scalar style (String.ofList s.text)) with
    spots := s.rest, keyAllowed := s.brokenLine }

/-- A block scalar. -/
def block? (l : Lexer) (style : ScalarStyle) : Option Lexer := do
  let l ← l.dropKey?
  let s ← scanBlock (style == .folded) l.indent (l.spots.drop 1)
  some { l.emit (.scalar style (String.ofList s.text)) with
    spots := s.rest, keyAllowed := s.brokenLine }

/-- Whether a plain scalar may begin with a character before another one. -/
def startsPlain (inFlow : Bool) (c next : Char) : Bool :=
  !(isGapOrEnd c || "-?:,[]\x7b\x7d#&*!|>'\"%@`".toList.contains c) ||
    (c == '-' && !isGap next) ||
    (!inFlow && (c == '?' || c == ':') && !isGapOrEnd next)

/-- Reads the next token, which begins with the next character. -/
def token? (l : Lexer) : Option Lexer :=
  let c := charAt l.spots 0
  let next := charAt l.spots 1
  let documentMark (mark : Char) (t : Token) : Option (Option Lexer) :=
    if isDocumentMark mark l.spots then some ((l.atMargin?).map (·.take 3 t)) else none
  if c = '%' ∧ columnOf l.spots = 0 then do
    let l ← l.atMargin?
    let (t, rest) ← scanDirective? l.spots
    some { l.emit t with spots := rest }
  else match documentMark '-' .documentStart <|> documentMark '.' .documentEnd with
  | some marked => marked
  | none =>
    match c with
    | '[' => l.flowStart? .flowSequenceStart
    | '\x7b' => l.flowStart? .flowMappingStart
    | ']' => l.flowEnd? .flowSequenceEnd
    | '\x7d' => l.flowEnd? .flowMappingEnd
    | ',' => l.flowEntry?
    | '*' => l.property? fun spots => (scanName? spots).map fun (n, r) => (.aliased n, r)
    | '&' => l.property? fun spots => (scanName? spots).map fun (n, r) => (.anchor n, r)
    | '!' => l.property? (scanTag? l.inFlow)
    | '\'' => l.scalar? .quoted fun spots => scanQuoted true .empty [] 0 (spots.drop 1)
    | '"' => l.scalar? .quoted fun spots => scanQuoted false .empty [] 0 (spots.drop 1)
    | c =>
      if c = '-' ∧ isGapOrEnd next then l.blockMark? .blockSequenceStart .blockEntry true
      else if c = '?' ∧ (l.inFlow || isGapOrEnd next) then
        l.blockMark? .blockMappingStart .key (!l.inFlow)
      else if c = ':' ∧ (l.inFlow || isGapOrEnd next) then l.valueMark?
      else if c = '|' ∧ !l.inFlow then l.block? .literal
      else if c = '>' ∧ !l.inFlow then l.block? .folded
      else if startsPlain l.inFlow c next then
        l.scalar? .plain (scanPlain l.inFlow (l.indent + 1) .empty [])
      else none

/-- Reads tokens to the end of the text; every token takes a character of it at least. -/
def run? : (bound : Nat) → Lexer → Option Lexer
  | 0, _ => none
  | bound + 1, l => do
    let (keyAllowed, spots) := skipTo l.inFlow false l.keyAllowed l.spots
    let l ← dropStaleKeys? { l with keyAllowed, spots }
    let l := l.closeBlocks (columnOf spots)
    if isEnd (charAt spots 0) then l.atMargin? else run? bound (← l.token?)

end Lexer

/-- The tokens of a text. -/
def Token.ofText? (text : String) : Option (List Token) := do
  let spots ← Spot.ofText? text
  let start : Lexer := ⟨spots, [], 0, -1, [], [none], true⟩
  let l ← start.run? (spots.length + 1)
  some (l.tokens.reverse.flatMap fun (opening, t) => opening ++ [t])

end ApiScreens.Yaml
