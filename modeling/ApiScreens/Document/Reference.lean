import ApiScreens.Diagnostic
import ApiScreens.Json.Pointer

/-!
# Replacing references

Every local reference of a document is replaced by what it names, references in that included. A
chain of references that comes back to one of its own has no end and is refused, like a reference
that leaves the document or names nothing. A chain without a repetition is no longer than the number
of references in the document, which bounds the work.
-/

namespace ApiScreens

/-- Why a reference cannot be replaced. -/
inductive ReferenceError where
  | external (reference : String)
  | dangling (reference : String)
  | circular (chain : List String)
deriving DecidableEq

namespace ReferenceError

/-- What a message says about the cause. -/
def message : ReferenceError → String
  | external r => s!"external reference '{r}' is not supported"
  | dangling r => s!"invalid ref target '{r}'"
  | circular chain => "circular reference: " ++ String.intercalate " -> " chain

/-- The kind of fault. -/
def code : ReferenceError → FaultCode
  | external _ | dangling _ => .externalRef
  | circular _ => .circularRef

/-- The fault that is reported for the reference at a node. -/
def diagnostic (e : ReferenceError) (node : Json.Pointer) : Diagnostic :=
  ⟨e.code, .resolve, e.message, some (Json.Pointer.push node "$ref")⟩

end ReferenceError

namespace Reference

mutual

/-- The references of a value, also those inside a node that is a reference itself. -/
def all : Json → List String
  | .array items => allOfItems items
  | .object members => ((Json.object members).reference?).toList ++ allOfMembers members
  | _ => []

/-- The references of items. -/
def allOfItems : List Json → List String
  | [] => []
  | v :: rest => all v ++ allOfItems rest

/-- The references of members. -/
def allOfMembers : Json.Members → List String
  | [] => []
  | (_, v) :: rest => all v ++ allOfMembers rest

end

mutual

/-- Rewrites the node at a pointer, with `follow` answering for the references in it. -/
def expand (follow : Json.Pointer → String → Except Diagnostic Json) (place : Json.Pointer) :
    Json → Except Diagnostic Json
  | .array items => do return .array (← expandItems follow place 0 items)
  | .object members =>
    match (Json.object members).reference? with
    | some reference => follow place reference
    | none => do return .object (← expandMembers follow place members)
  | value => .ok value

/-- Rewrites items, the first of which has an index. -/
def expandItems (follow : Json.Pointer → String → Except Diagnostic Json) (place : Json.Pointer)
    (index : Nat) : List Json → Except Diagnostic (List Json)
  | [] => .ok []
  | v :: rest => do
    let v ← expand follow (Json.Pointer.push place (toString index)) v
    return v :: (← expandItems follow place (index + 1) rest)

/-- Rewrites members. -/
def expandMembers (follow : Json.Pointer → String → Except Diagnostic Json)
    (place : Json.Pointer) : Json.Members → Except Diagnostic Json.Members
  | [] => .ok []
  | (k, v) :: rest => do
    let v ← expand follow (Json.Pointer.push place k) v
    return (k, v) :: (← expandMembers follow place rest)

end

/-- Follows a reference after a chain of others, with `inner` rewriting what it names. -/
def follow (root : Json) (inner : List String → Json.Pointer → Json → Except Diagnostic Json)
    (chain : List String) (place : Json.Pointer) (reference : String) : Except Diagnostic Json :=
  if !Json.isLocalReference reference then
    .error ((ReferenceError.external reference).diagnostic place)
  else if chain.contains reference then
    .error ((ReferenceError.circular (chain ++ [reference])).diagnostic place)
  else match Json.referencePointer? reference, root.target? reference with
    | some pointer, some target => inner (chain ++ [reference]) pointer target
    | _, _ => .error ((ReferenceError.dangling reference).diagnostic place)

/-- Rewrites the node at a pointer that a chain of references has led to; the chain may become
longer by so many. -/
def resolveAt (root : Json) :
    Nat → List String → Json.Pointer → Json → Except Diagnostic Json
  | 0, chain, place, value =>
    expand (follow root (fun chain place _ =>
      .error ((ReferenceError.circular chain).diagnostic place)) chain) place value
  | more + 1, chain, place, value =>
    expand (follow root (resolveAt root more) chain) place value

/-- The document with every reference replaced. -/
def resolve (root : Json) : Except Diagnostic Json :=
  resolveAt root (all root).length [] "" root

mutual

/-- Whether an object in the value has the key of references. -/
def anyKey : Json → Bool
  | .array items => anyKeyOfItems items
  | .object members => Keyed.has members "$ref" || anyKeyOfMembers members
  | _ => false

/-- Whether an object in the items has the key of references. -/
def anyKeyOfItems : List Json → Bool
  | [] => false
  | v :: rest => anyKey v || anyKeyOfItems rest

/-- Whether an object in the members has the key of references. -/
def anyKeyOfMembers : Json.Members → Bool
  | [] => false
  | (_, v) :: rest => anyKey v || anyKeyOfMembers rest

end

end Reference

end ApiScreens
