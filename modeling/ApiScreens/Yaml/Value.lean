import ApiScreens.Yaml.Node
import ApiScreens.Yaml.Resolved

/-!
# Values of YAML documents

The generic tree of a document. Tags of the standard force the type of a scalar, tags that begin
with an exclamation mark stay on their value, and aliases are replaced by what they stand for. A
document is refused when a mapping has a key twice, when collections are nested more than 128 deep,
or when its aliases are followed more than a hundred times as often as it has events.
-/

namespace ApiScreens.Yaml

/-- A value. -/
inductive Value where
  | null
  | bool (b : Bool)
  | number (n : Number)
  | string (s : String)
  | sequence (items : List Value)
  | mapping (entries : List (Value × Value))
  | tagged (tag : String) (value : Value)

namespace Value

/-- The name of a tag without an exclamation mark at its front, unless that is all. -/
def unmarked (name : String) : List Char :=
  match name.toList with
  | '!' :: c :: rest => c :: rest
  | cs => cs

mutual

/-- Whether two values are equal as keys; the order of a mapping's entries does not matter, nor
does an exclamation mark at the front of a tag's name. -/
def sameKey : Value → Value → Bool
  | null, null => true
  | bool a, bool b => a == b
  | number a, number b => a.sameKey b
  | string a, string b => a == b
  | sequence a, sequence b => sameItems a b
  | mapping a, mapping b => a.length == b.length && sameEntries a b
  | tagged s a, tagged t b => unmarked s == unmarked t && sameKey a b
  | _, _ => false

/-- Whether items are equal one by one. -/
def sameItems : List Value → List Value → Bool
  | [], [] => true
  | a :: as, b :: bs => sameKey a b && sameItems as bs
  | _, _ => false

/-- Whether every entry of the first list is in the second. -/
def sameEntries : List (Value × Value) → List (Value × Value) → Bool
  | [], _ => true
  | (k, v) :: rest, others =>
    others.any (fun e => sameKey k e.1 && sameKey v e.2) && sameEntries rest others

end

end Value

namespace Scalar

/-- The value of an integer; one that needs more than 64 bits but no more than 128 is refused,
and a still longer one is no integer. -/
def intValue? (n : Int) : Option (Option Value) :=
  match Number.ofInt? n with
  | some number => some (some (.number number))
  | none =>
    if -0x80000000000000000000000000000000 ≤ n ∧ n < 0x100000000000000000000000000000000 then
      some none
    else none

/-- The value of a plain scalar without a tag. -/
def plainValue? (text : String) : Option Value :=
  let s := text.toList
  if s.isEmpty || isNull s then some .null
  else match bool? s with
    | some b => some (.bool b)
    | none => match (int? s).bind intValue? with
      | some value => value
      | none =>
        match if hasNeedlessZero s then none else float? s with
        | some d => some (.number (.float d))
        | none => some (.string text)

/-- The value of a scalar with no tag or a local one. -/
def untaggedValue? (style : ScalarStyle) (text : String) : Option Value :=
  if style = .plain then plainValue? text else some (.string text)

/-- The value of a scalar. -/
def value? (tag : Option Tag) (style : ScalarStyle) (text : String) : Option Value :=
  let s := text.toList
  match tag with
  | none => untaggedValue? style text
  | some tag =>
    if tag = .standard "bool" then (bool? s).map .bool
    else if tag = .standard "int" then ((int? s).bind intValue?).join
    else if tag = .standard "float" then (float? s).map fun d => .number (.float d)
    else if tag = .standard "null" then if isNull s then some .null else none
    else if tag.isLocal then untaggedValue? style text
    else some (.string text)

end Scalar

namespace Document

/-- A step of reading values, with the number of aliases followed so far. -/
abbrev Following := StateT Nat Option

/-- The value under the name of a node's tag, if it gives one. -/
def named (p : Properties) (value : Value) : Value :=
  match p.tag.bind Tag.name? with
  | some name => .tagged name value
  | none => value

/-- The value of a node that is no alias; `inner` reads the nodes in it. -/
def content (inner : Option (Node → Following Value)) : Node → Following Value
  | .aliased _ => failure
  | .scalar p style text => do
    match Scalar.value? p.tag style text with
    | some value => return named p value
    | none => failure
  | .sequence p items => do
    let some inner := inner | failure
    return named p (.sequence (← items.mapM inner))
  | .mapping p entries => do
    let some inner := inner | failure
    let entries ← entries.foldlM (fun (read : List (Value × Value)) (k, v) => do
      let key ← inner k
      guard !(read.any fun e => e.1.sameKey key)
      let value ← inner v
      return read ++ [(key, value)]) []
    return named p (.mapping entries)

/-- The value of a node in which collections may be nested so deep. -/
def valueAt (d : Document) (limit : Nat) : Nat → Node → Following Value
  | depth, n => do
    let n ← match n with
      | .aliased id => do
        modify (· + 1)
        guard ((← get) ≤ limit)
        match d.target? id with
        | some target => pure target
        | none => failure
      | n => pure n
    match depth with
    | 0 => content none n
    | depth + 1 => content (some (valueAt d limit depth)) n

/-- The deepest nesting of collections. -/
def maxDepth : Nat := 128

/-- The value of a document; one without a root is null. -/
def value? (d : Document) : Option Value :=
  match d.root with
  | none => some .null
  | some root => ((d.valueAt (100 * root.eventCount) maxDepth root).run 0).map (·.1)

end Document

/-- The value of a YAML text. -/
def Value.ofText? (text : String) : Option Value := (Document.ofText? text).bind Document.value?

end ApiScreens.Yaml
