import ApiScreens.Document.Subset
import Mathlib.Logic.Relation

/-!
# The rules of the supported subset

The subset as a set of rules: which nodes of a document are looked at, as what, and what each has to
be like. A reading says how a node is entered, so the same rules can be read with references
followed everywhere, nowhere, or at some nodes only.
-/

namespace ApiScreens.Subset

open Json (isLocalReference)

/-- What a node of a document is looked at as. -/
inductive Position where
  | document
  | paths
  | pathItem (path : String)
  | operation (method : Method)
  | tags
  | responses
  | response
  | content
  | mediaType
  | schema
  | properties

namespace Position

/-- The members with a fixed key that are looked at, and as what. -/
inductive Field : Position → String → Position → Prop
  | paths : Field document "paths" paths
  | operation (path : String) (method : Method) : Field (pathItem path) method.key (operation method)
  | tags (method : Method) : Field (operation method) "tags" tags
  | responses (method : Method) : Field (operation method) "responses" responses
  | response {code : String} (success : code ∈ successCodes) : Field responses code response
  | content : Field response "content" content
  | mediaType : Field content jsonMediaType mediaType
  | schema : Field mediaType "schema" schema
  | items : Field schema "items" schema
  | properties : Field schema "properties" properties

/-- The members with any key that are looked at, and as what. -/
inductive Entry : Position → String → Position → Prop
  | path (path : String) : Entry paths path (pathItem path)
  | property (name : String) : Entry properties name schema

/-- What a node has to be like. -/
def Allows : Position → Json → Prop
  | pathItem path, _ => (PathTemplate.parameters path).length ≤ 1
  | operation method, v => method.needsBody = true → (v.get? "requestBody").isSome = true
  | tags, v => ∀ items, v = .array items → items.length ≤ 1
  | responses, v => ¬ ((v.get? "200").isSome = true ∧ (v.get? "201").isSome = true)
  | schema, v => ∀ keyword ∈ compositionKeywords, v.get? keyword = none
  | _, _ => True

end Position

/-- How a node is entered: the nodes that are read in its place. -/
abbrev Reading := Position → Json → Json → Prop

/-- A node to look at leads to others. -/
inductive Step (reading : Reading) : Position × Json → Position × Json → Prop
  | field {p q : Position} {key : String} {v u w : Json} (enter : reading p v u)
      (found : u.get? key = some w) (field : p.Field key q) : Step reading (p, v) (q, w)
  | entry {p q : Position} {key : String} {members : Json.Members} {v w : Json}
      (enter : reading p v (.object members)) (mem : (key, w) ∈ members) (entry : p.Entry key q) :
      Step reading (p, v) (q, w)

/-- A node and all that it leads to keep the rules. -/
def Keeps (reading : Reading) (p : Position) (v : Json) : Prop :=
  ∀ q w u, Relation.ReflTransGen (Step reading) (p, v) (q, w) → reading q w u → q.Allows u

/-- A document keeps the rules. -/
abbrev Conforms (reading : Reading) (root : Json) : Prop := Keeps reading .document root

/-- A node keeps the rules if what is read in its place does and what that leads to keeps them. -/
theorem keeps_iff {reading : Reading} {p : Position} {v : Json} :
    Keeps reading p v ↔ ∀ u, reading p v u → p.Allows u ∧
      (∀ key q w, p.Field key q → u.get? key = some w → Keeps reading q w) ∧
      (∀ members key q w, u = .object members → p.Entry key q → (key, w) ∈ members →
        Keeps reading q w) := by
  constructor
  · intro h u hu
    refine ⟨h p v u Relation.ReflTransGen.refl hu, ?_, ?_⟩
    · intro key q w hfield hw q' w' u' hsteps
      exact h q' w' u' (hsteps.head (Step.field hu hw hfield))
    · rintro members key q w rfl hentry hw q' w' u' hsteps
      exact h q' w' u' (hsteps.head (Step.entry hu hw hentry))
  · intro h q w u hsteps hu
    rcases hsteps.cases_head with heq | ⟨⟨q', w'⟩, hstep, hrest⟩
    · obtain ⟨rfl, rfl⟩ := Prod.mk.inj heq
      exact (h u hu).1
    · cases hstep with
      | field henter hfound hfield => exact (h _ henter).2.1 _ _ _ hfield hfound q w u hrest hu
      | entry henter hmem hentry => exact (h _ henter).2.2 _ _ _ _ rfl hentry hmem q w u hrest hu

/-- What a node denotes: itself, or what the target of the reference denotes that it is. -/
inductive Denotes (root : Json) : Json → Json → Prop
  | self {v : Json} (plain : v.reference? = none) : Denotes root v v
  | reference {v target w : Json} {s : String} (reference : v.reference? = some s)
      (here : isLocalReference s = true) (found : root.target? s = some target)
      (rest : Denotes root target w) : Denotes root v w

/-- The reading that follows every reference. -/
def everywhere (root : Json) : Reading := fun _ v w => Denotes root v w

/-- The reading of the validator, which follows the references of schemas and one reference for a
response. -/
def asValidated (root : Json) : Reading
  | .schema, v, w => Denotes root v w
  | .response, v, w => w = (dereference root v "").1
  | _, v, w => w = v

end ApiScreens.Subset
