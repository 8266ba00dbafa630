import ApiScreens.Text.Digit
import ApiScreens.Yaml.Spot

/-!
# Scalars of YAML texts

Plain, quoted and block scalars. Inside the first two a single line end becomes a blank and more of
them become one line end less; what stands between two words is gathered in a `Gap` until the next
word shows whether it is kept.
-/

namespace ApiScreens.Yaml

/-- What stands between two words of a scalar: blanks of one line, or line ends, the first one
apart. Lists are newest first. -/
structure Gap where
  broken : Bool
  blanks : List Char
  first : Option Char
  more : List Char

namespace Gap

/-- Nothing between two characters. -/
def empty : Gap := ⟨false, [], none, []⟩

/-- A line end that a backslash hides. -/
def hidden : Gap := ⟨true, [], none, []⟩

/-- Whether nothing has been gathered. -/
def isEmpty (g : Gap) : Bool := !g.broken && g.blanks.isEmpty

/-- Gathers a blank; those after a line end do not count. -/
def addBlank (g : Gap) (c : Char) : Gap :=
  if g.broken then g else { g with blanks := c :: g.blanks }

/-- Gathers a line end. -/
def addBreak (g : Gap) (c : Char) : Gap :=
  if g.broken then { g with more := c :: g.more } else ⟨true, [], some c, []⟩

/-- What the gap adds to the scalar. -/
def fold (g : Gap) : List Char :=
  if !g.broken then g.blanks.reverse
  else if g.first = some '\n' then
    if g.more.isEmpty then [' '] else g.more.reverse
  else g.first.toList ++ g.more.reverse

end Gap

/-- A scanned scalar: its characters, the text after it, and whether a line end came last. -/
structure Scanned where
  text : List Char
  rest : List Spot
  brokenLine : Bool

/-- A plain scalar; `indent` is the least column of its further lines in block context. The
characters read are kept newest first. -/
def scanPlain (inFlow : Bool) (indent : Int) (gap : Gap) (read : List Char) :
    List Spot → Option Scanned
  | [] => some ⟨read.reverse, [], gap.broken⟩
  | s :: rest =>
    let done : Option Scanned := some ⟨read.reverse, s :: rest, gap.broken⟩
    let c := s.char
    let next := charAt rest 0
    if isGap c then
      if gap.broken && (s.column : Int) < indent && c == '\t' then none
      else scanPlain inFlow indent (gap.addBlank c) read rest
    else if isBreak c then scanPlain inFlow indent (gap.addBreak c) read rest
    else if isEnd c then done
    else if !gap.isEmpty && ((!inFlow && (s.column : Int) < indent) ||
        isDocumentMark '-' (s :: rest) || isDocumentMark '.' (s :: rest) || c == '#') then done
    else if inFlow && c == ':' && (isFlowIndicator next || next == '?') then none
    else if (c == ':' && isGapOrEnd next) || (inFlow && isFlowIndicator c) then done
    else scanPlain inFlow indent .empty (c :: (gap.fold.reverse ++ read)) rest

/-- What an escape letter stands for. -/
inductive Escape where
  | char (c : Char)
  | codePoint (digits : Nat)

/-- The escapes of double-quoted scalars. -/
def Escape.ofChar? : Char → Option Escape
  | '0' => some (char '\x00')
  | 'a' => some (char '\x07')
  | 'b' => some (char '\x08')
  | 't' | '\t' => some (char '\t')
  | 'n' => some (char '\n')
  | 'v' => some (char '\x0b')
  | 'f' => some (char '\x0c')
  | 'r' => some (char '\r')
  | 'e' => some (char '\x1b')
  | ' ' => some (char ' ')
  | '"' => some (char '"')
  | '/' => some (char '/')
  | '\\' => some (char '\\')
  | 'N' => some (char '\u0085')
  | '_' => some (char '\u00a0')
  | 'L' => some (char '\u2028')
  | 'P' => some (char '\u2029')
  | 'x' => some (codePoint 2)
  | 'u' => some (codePoint 4)
  | 'U' => some (codePoint 8)
  | _ => none

/-- The character after a backslash and how many characters the escape has after it. -/
def readEscape? (spots : List Spot) : Option (Char × Nat) := do
  match ← Escape.ofChar? (charAt spots 0) with
  | .char c => some (c, 1)
  | .codePoint n =>
    let code ← Text.number? 16 (((spots.drop 1).take n).map Spot.char)
    guard (code.isValidChar)
    some (Char.ofNat code, n + 1)

/-- A quoted scalar whose opening quote has been read; `skip` characters belong to what has been
read already. The characters read are kept newest first. -/
def scanQuoted (single : Bool) (gap : Gap) (read : List Char) (skip : Nat) :
    List Spot → Option Scanned
  | [] => none
  | s :: rest =>
    match skip with
    | skip + 1 => scanQuoted single gap read skip rest
    | 0 =>
      let c := s.char
      let next := charAt rest 0
      if isGap c then scanQuoted single (gap.addBlank c) read 0 rest
      else if isBreak c then scanQuoted single (gap.addBreak c) read 0 rest
      else if isEnd c then none
      else if isDocumentMark '-' (s :: rest) || isDocumentMark '.' (s :: rest) then none
      else
        let read := gap.fold.reverse ++ read
        if single then
          if c = '\'' then
            if next = '\'' then scanQuoted single .empty ('\'' :: read) 1 rest
            else some ⟨read.reverse, rest, false⟩
          else scanQuoted single .empty (c :: read) 0 rest
        else if c = '"' then some ⟨read.reverse, rest, false⟩
        else if c = '\\' then
          if isBreak next then scanQuoted single .hidden read 1 rest
          else match readEscape? rest with
            | none => none
            | some (c, length) => scanQuoted single .empty (c :: read) length rest
        else scanQuoted single .empty (c :: read) 0 rest

/-- How the line ends after a block scalar are kept. -/
inductive Chomping where
  | strip
  | clip
  | keep
deriving DecidableEq

/-- The chomping that an indicator asks for. -/
def Chomping.ofChar? : Char → Option Chomping
  | '-' => some strip
  | '+' => some keep
  | _ => none

/-- The digit that an indentation indicator writes; zero is refused. -/
def indentIndicator? (c : Char) : Option (Option Nat) :=
  if !c.isDigit then some none
  else if c = '0' then none
  else some (some (c.toNat - '0'.toNat))

/-- The indicators after the mark of a block scalar, in either order. -/
def blockHeader? (spots : List Spot) : Option (Chomping × Option Nat × List Spot) := do
  match Chomping.ofChar? (charAt spots 0) with
  | some chomping =>
    let spots := spots.drop 1
    let width ← indentIndicator? (charAt spots 0)
    some (chomping, width, spots.drop width.toList.length)
  | none =>
    let width ← indentIndicator? (charAt spots 0)
    let spots := spots.drop width.toList.length
    if width.isNone then some (.clip, none, spots)
    else match Chomping.ofChar? (charAt spots 0) with
      | some chomping => some (chomping, width, spots.drop 1)
      | none => some (.clip, width, spots)

/-- The empty lines before a line of a block scalar, newest first, with the widest indentation
seen; an `indent` of zero is still to be found. A tab cannot indent. -/
def blockBreaks? (indent widest : Nat) (breaks : List Char) :
    List Spot → Option (Nat × List Char × List Spot)
  | [] => some (widest, breaks, [])
  | s :: rest =>
    let inside := indent == 0 || s.column < indent
    if inside && s.char == ' ' then blockBreaks? indent widest breaks rest
    else if inside && s.char == '\t' then none
    else
      let widest := max widest s.column
      if isBreak s.char then blockBreaks? indent widest (s.char :: breaks) rest
      else some (widest, breaks, s :: rest)

/-- The lines of a block scalar, of which at most `bound` are left. `first` is the line end of the
line before and `breaks` are the line ends after it, newest first; `blankBefore` says whether that
line began with a blank. -/
def blockLines? (folded : Bool) (indent : Nat) :
    (bound : Nat) → (first : Option Char) → (breaks : List Char) → (blankBefore : Bool) →
      (read : List Char) → List Spot → Option (List Char × Option Char × List Char × List Spot)
  | 0, first, breaks, _, read, spots => some (read, first, breaks, spots)
  | bound + 1, first, breaks, blankBefore, read, spots => do
    if columnOf spots ≠ indent ∨ isEnd (charAt spots 0) then
      some (read, first, breaks, spots)
    else
      let blank := isGap (charAt spots 0)
      let joined :=
        if folded && first == some '\n' && !blankBefore && !blank then
          if breaks.isEmpty then [' '] else breaks
        else breaks ++ first.toList
      let (line, rest) := takeChars (fun c => !isBreak c && !isEnd c) spots
      let (first, rest) :=
        if isBreak (charAt rest 0) then (some (charAt rest 0), rest.drop 1) else (none, rest)
      let (_, breaks, rest) ← blockBreaks? indent 0 [] rest
      blockLines? folded indent bound first breaks blank (line.reverse ++ (joined ++ read)) rest

/-- A block scalar after its mark; `parent` is the indentation of what holds it. -/
def scanBlock (folded : Bool) (parent : Int) (spots : List Spot) : Option Scanned := do
  let (chomping, width, spots) ← blockHeader? spots
  let spots ← dropLineEnd? spots
  let given : Nat := match width with
    | some n => (max parent 0 + n).toNat
    | none => 0
  let (widest, breaks, spots) ← blockBreaks? given 0 [] spots
  let indent := if given = 0 then max widest (max (parent + 1) 1).toNat else given
  let (read, first, breaks, rest) ←
    blockLines? folded indent (spots.length + 1) none breaks false [] spots
  let read := if chomping = .strip then read else first.toList ++ read
  let read := if chomping = .keep then breaks ++ read else read
  some ⟨read.reverse, rest, true⟩

end ApiScreens.Yaml
