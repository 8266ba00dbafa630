import ApiScreens.Yaml.Token.Lexer

/-!
# Nodes of YAML documents

The tree that the tokens of a document make up. An alias names an earlier node by a number. The
number of an anchor is the number of anchor names known before it, so an anchor name that is given
again may end up with the number of a later one; of several nodes with one number the last counts.
-/

namespace ApiScreens.Yaml

/-- The anchor and the tag of a node. -/
structure Properties where
  anchor : Option Nat
  tag : Option Tag
deriving DecidableEq

/-- A node of a document. -/
inductive Node where
  | aliased (id : Nat)
  | scalar (properties : Properties) (style : ScalarStyle) (text : String)
  | sequence (properties : Properties) (items : List Node)
  | mapping (properties : Properties) (entries : List (Node × Node))

namespace Node

/-- Neither anchor nor tag. -/
def bare : Properties := ⟨none, none⟩

/-- The node of a place where nothing is written. -/
def blank : Node := scalar bare .plain ""

mutual

/-- How many events the node is announced by: one for a leaf, two for a collection. -/
def eventCount : Node → Nat
  | aliased _ | scalar .. => 1
  | sequence _ items => eventCountItems items + 2
  | mapping _ entries => eventCountEntries entries + 2

/-- The events of items. -/
def eventCountItems : List Node → Nat
  | [] => 0
  | n :: rest => n.eventCount + eventCountItems rest

/-- The events of entries. -/
def eventCountEntries : List (Node × Node) → Nat
  | [] => 0
  | (k, v) :: rest => k.eventCount + v.eventCount + eventCountEntries rest

end

mutual

/-- The nodes that have anchors, in the order of the document. -/
def anchored : Node → List (Nat × Node)
  | aliased _ => []
  | scalar p style text => p.anchor.toList.map fun id => (id, scalar p style text)
  | sequence p items =>
    p.anchor.toList.map (fun id => (id, sequence p items)) ++ anchoredItems items
  | mapping p entries =>
    p.anchor.toList.map (fun id => (id, mapping p entries)) ++ anchoredEntries entries

/-- The nodes with anchors among items. -/
def anchoredItems : List Node → List (Nat × Node)
  | [] => []
  | n :: rest => n.anchored ++ anchoredItems rest

/-- The nodes with anchors among entries. -/
def anchoredEntries : List (Node × Node) → List (Nat × Node)
  | [] => []
  | (k, v) :: rest => k.anchored ++ v.anchored ++ anchoredEntries rest

end

end Node

/-- A document: its root, if it has one, and its anchored nodes, last ones first. -/
structure Document where
  root : Option Node
  anchors : List (Nat × Node)

namespace Document

/-- The document of a root. -/
def ofRoot (root : Option Node) : Document :=
  ⟨root, ((root.map Node.anchored).getD []).reverse⟩

/-- The node that an alias stands for. -/
def target? (d : Document) (id : Nat) : Option Node := d.anchors.lookup id

/-- The node, or the one that it stands for as an alias. -/
def follow? (d : Document) : Node → Option Node
  | .aliased id => d.target? id
  | n => some n

end Document

/-- Tokens that are left, the stems of tag handles, and the numbers of anchor names. -/
structure Unread where
  tokens : List Token
  handles : List (String × List UInt8)
  names : List (String × Nat)

/-- A step of reading nodes off tokens. -/
abbrev Reading := StateT Unread Option

namespace Reading

/-- The next token, if one is left. -/
def peek : Reading (Option Token) := do
  return (← get).tokens.head?

/-- Passes over the next token. -/
def skip : Reading Unit :=
  modify fun s => { s with tokens := s.tokens.drop 1 }

/-- Whether one of these tokens comes next. -/
def atAny (tokens : List Token) : Reading Bool := do
  return (← peek).any tokens.contains

/-- Passes over a token, which must come next. -/
def expect (t : Token) : Reading Unit := do
  guard (← atAny [t])
  skip

/-- Gives an anchor name its number. -/
def register (name : String) : Reading Nat := do
  let names := (← get).names
  modify fun s => { s with names := (name, names.length) :: names.filter (·.1 != name) }
  return names.length

/-- The tag with a suffix, whose handle must be known. -/
def tagOf (handle : String) (suffix : List UInt8) : Reading Tag := do
  if handle = "" then return ⟨suffix⟩
  match (← get).handles.lookup handle with
  | some stem => return ⟨stem ++ suffix⟩
  | none => failure

/-- The anchor and the tag before a node, in either order; the anchor's name is still to be
registered. -/
def properties : Reading (Option String × Option Tag) := do
  match ← peek with
  | some (.anchor name) =>
    skip
    match ← peek with
    | some (.tag handle suffix) =>
      skip
      return (some name, some (← tagOf handle suffix))
    | _ => return (some name, none)
  | some (.tag handle suffix) =>
    skip
    match ← peek with
    | some (.anchor name) =>
      skip
      return (some name, some (← tagOf handle suffix))
    | _ => return (none, some (← tagOf handle suffix))
  | _ => return (none, none)

/-- Where a node stands: whether block collections may begin there, and whether a sequence may do
without indentation of its own. -/
structure Place where
  block : Bool
  flush : Bool

mutual

/-- A node. Every call below uses up a token or a part of the bound of which four are there for
each token. -/
def node : Nat → Place → Reading Node
  | 0, _ => failure
  | bound + 1, place => do
    if let some (.aliased name) ← peek then
      skip
      match (← get).names.lookup name with
      | some id => return .aliased id
      | none => failure
    let (anchor, tag) ← properties
    let next ← peek
    let begins := match next with
      | some (.scalar ..) | some .flowSequenceStart | some .flowMappingStart => true
      | some .blockSequenceStart | some .blockMappingStart => place.block
      | some .blockEntry => place.flush
      | _ => false
    guard (begins || anchor.isSome || tag.isSome)
    let id ← anchor.mapM register
    let p : Properties := ⟨id, tag⟩
    match next with
    | some (.scalar style text) =>
      skip
      return .scalar p style text
    | some .flowSequenceStart =>
      skip
      return .sequence p (← flowItems bound true)
    | some .flowMappingStart =>
      skip
      return .mapping p (← flowEntries bound true)
    | some .blockSequenceStart =>
      if !place.block then return .scalar p .plain ""
      skip
      return .sequence p (← blockItems bound)
    | some .blockMappingStart =>
      if !place.block then return .scalar p .plain ""
      skip
      return .mapping p (← blockEntries bound)
    | some .blockEntry =>
      if !place.flush then return .scalar p .plain ""
      return .sequence p (← flushItems bound)
    | _ => return .scalar p .plain ""

/-- A node, or a blank one where one of these tokens comes next. -/
def nodeUnless : Nat → List Token → Place → Reading Node
  | 0, _, _ => failure
  | bound + 1, stops, place => do
    if ← atAny stops then return .blank
    node bound place

/-- The items of an indented block sequence, with its end. -/
def blockItems : Nat → Reading (List Node)
  | 0 => failure
  | bound + 1 => do
    if ← atAny [.blockEnd] then
      skip
      return []
    expect .blockEntry
    let item ← nodeUnless bound [.blockEntry, .blockEnd] ⟨true, false⟩
    return item :: (← blockItems bound)

/-- The items of a block sequence that is indented like the key before it. -/
def flushItems : Nat → Reading (List Node)
  | 0 => failure
  | bound + 1 => do
    if !(← atAny [.blockEntry]) then return []
    skip
    let item ← nodeUnless bound [.blockEntry, .key, .value, .blockEnd] ⟨true, false⟩
    return item :: (← flushItems bound)

/-- The entries of a block mapping, with its end. -/
def blockEntries : Nat → Reading (List (Node × Node))
  | 0 => failure
  | bound + 1 => do
    if ← atAny [.blockEnd] then
      skip
      return []
    expect .key
    let key ← nodeUnless bound [.key, .value, .blockEnd] ⟨true, true⟩
    let value ← blockValue bound
    return (key, value) :: (← blockEntries bound)

/-- The value of a block mapping's entry, which may be missing. -/
def blockValue : Nat → Reading Node
  | 0 => failure
  | bound + 1 => do
    if !(← atAny [.value]) then return .blank
    skip
    nodeUnless bound [.key, .value, .blockEnd] ⟨true, true⟩

/-- The items of a flow sequence, with its end; all but the first follow a comma. -/
def flowItems : Nat → Bool → Reading (List Node)
  | 0, _ => failure
  | bound + 1, first => do
    if ← atAny [.flowSequenceEnd] then
      skip
      return []
    if !first then expect .flowEntry
    if ← atAny [.flowSequenceEnd] then
      skip
      return []
    let item ← flowItem bound
    return item :: (← flowItems bound false)

/-- An item of a flow sequence, which may be a single entry of a mapping. -/
def flowItem : Nat → Reading Node
  | 0 => failure
  | bound + 1 => do
    if !(← atAny [.key]) then
      return ← node bound ⟨false, false⟩
    skip
    let key ←
      if ← atAny [.value, .flowEntry, .flowSequenceEnd] then do
        skip
        pure .blank
      else node bound ⟨false, false⟩
    let value ← flowValue bound [.flowEntry, .flowSequenceEnd]
    return .mapping Node.bare [(key, value)]

/-- The value of an entry in a flow collection, which may be missing. -/
def flowValue : Nat → List Token → Reading Node
  | 0, _ => failure
  | bound + 1, stops => do
    if !(← atAny [.value]) then return .blank
    skip
    nodeUnless bound stops ⟨false, false⟩

/-- The entries of a flow mapping, with its end; all but the first follow a comma. -/
def flowEntries : Nat → Bool → Reading (List (Node × Node))
  | 0, _ => failure
  | bound + 1, first => do
    if ← atAny [.flowMappingEnd] then
      skip
      return []
    if !first then expect .flowEntry
    if ← atAny [.flowMappingEnd] then
      skip
      return []
    let entry ←
      if ← atAny [.key] then do
        skip
        let key ← nodeUnless bound [.value, .flowEntry, .flowMappingEnd] ⟨false, false⟩
        let value ← flowValue bound [.flowEntry, .flowMappingEnd]
        pure (key, value)
      else do
        let key ← node bound ⟨false, false⟩
        pure (key, .blank)
    return entry :: (← flowEntries bound false)

end

/-- The directives before a document: at most one version, of the first major version, and each
tag handle once. -/
def directives : Nat → (version : Bool) → Reading Unit
  | 0, _ => failure
  | bound + 1, version => do
    match ← peek with
    | some (.version major minor) =>
      guard (!version && major == 1 && (minor == 1 || minor == 2))
      skip
      directives bound true
    | some (.tagHandle handle stem) =>
      guard ((← get).handles.lookup handle).isNone
      skip
      modify fun s => { s with handles := (handle, stem) :: s.handles }
      directives bound version
    | _ => return ()

/-- The tag handles that every document knows, unless it gives them another meaning. -/
def defaultHandles : List (String × List UInt8) :=
  [("!", Text.utf8 ['!']), ("!!", (Tag.standard "").bytes)]

/-- Whether a token begins or ends a document. -/
def isDocumentToken : Token → Bool
  | .version .. | .tagHandle .. | .documentStart | .documentEnd => true
  | _ => false

/-- The root of the only document, if there is one. -/
def document (bound : Nat) : Reading (Option Node) := do
  match ← peek with
  | none => return none
  | some t =>
    let explicit := isDocumentToken t && t != .documentEnd
    if explicit then
      directives bound false
      expect .documentStart
    modify fun s => { s with handles := s.handles ++ defaultHandles }
    let bare := (← peek).all isDocumentToken
    let root ← if explicit && bare then pure .blank else node bound ⟨true, false⟩
    modify fun s => { s with tokens := s.tokens.dropWhile (· == .documentEnd) }
    guard (← get).tokens.isEmpty
    return some root

end Reading

/-- The document of a text with no other document after it. -/
def Document.ofText? (text : String) : Option Document := do
  let tokens ← Token.ofText? text
  let (root, _) ← (Reading.document (4 * tokens.length + 4)).run ⟨tokens, [], []⟩
  some (Document.ofRoot root)

end ApiScreens.Yaml
