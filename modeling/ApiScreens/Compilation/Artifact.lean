import ApiScreens.Api.Build
import ApiScreens.Compilation.Resolved
import ApiScreens.Planner.Basic
import ApiScreens.Screen.Lowering

/-!
# Compiling documents

A compilation turns a document into screens: the document is resolved and hashed, the model of its
API is built, a planner makes a plan, and the normalized plan is lowered. The planner is asked only
once the model is built.
-/

namespace ApiScreens

/-- What a compilation makes. -/
structure Artifact where
  id : String
  specs : Keyed ScreenSpec
  model : ApiModel
  hash : String

namespace Artifact

/-- The keys of the screens. -/
def slugs (a : Artifact) : List String := a.specs.map (·.1)

/-- The names of the resources that have screens. -/
def names (a : Artifact) : List String := a.specs.map (·.2.entity)

/-- The JSON form of an artifact. -/
def toJson (a : Artifact) : Json :=
  .object [("id", .string a.id),
    ("specs", .object (a.specs.map fun (slug, spec) => (slug, spec.toJson))),
    ("resourceNames", .ofStrings a.names), ("resourceSlugs", .ofStrings a.slugs),
    ("apiIr", a.model.toJson), ("openapiCanonicalHash", .string a.hash)]

end Artifact

/-- A document that is ready to be planned. -/
structure PreparedDocument where
  hash : DocumentHash
  model : ApiModel

namespace PreparedDocument

/-- Takes a document text through all stages before the plan. -/
def ofText (prefixes : List String) (token : Option String) (text : String) :
    Except CompileFailure PreparedDocument := do
  let resolved ← ResolvedDocument.ofText text
  let build ← (ApiBuild.ofDocument resolved.root prefixes).mapError .ofDiagnostic
  return ⟨DocumentHash.ofRoot resolved.root token, build.model⟩

/-- The artifact that follows from a plan. -/
def artifact (d : PreparedDocument) (plan : Plan) : Except CompileFailure Artifact := do
  let specs ← (plan.normalize.lower d.model).mapError fun e => .ofDiagnostic e.diagnostic
  return ⟨d.hash.id, specs, d.model, d.hash.hash⟩

end PreparedDocument

/-- Compiles a document text with a planner. -/
def Planner.compile {m : Type → Type} [Monad m] (planner : Planner m) (prefixes : List String)
    (token : Option String) (text : String) : m (Except CompileFailure Artifact) :=
  match PreparedDocument.ofText prefixes token text with
  | .error failure => return .error failure
  | .ok document => do
    match ← planner.plan document.model with
    | .error fault => return .error (.ofDiagnostic fault)
    | .ok plan => return document.artifact plan

end ApiScreens
