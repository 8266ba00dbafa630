import ApiScreens.Document.Canonical
import ApiScreens.Document.Reference
import ApiScreens.Document.Source
import ApiScreens.Document.Subset

/-!
# Resolved documents

A document text is read, checked against the subset that is supported, and freed of references. The
first of these stages that fails ends the compilation; checking alone may report several faults.
-/

namespace ApiScreens

/-- The faults for which a compilation failed. -/
structure CompileFailure where
  errors : List Diagnostic
deriving DecidableEq

namespace CompileFailure

/-- The failure for one fault. -/
def ofDiagnostic (d : Diagnostic) : CompileFailure := ⟨[d]⟩

/-- What a message says about a failure. -/
def message (f : CompileFailure) : String := s!"compile failed with {f.errors.length} error(s)"

/-- The JSON form of a failure. -/
def toJson (f : CompileFailure) : Json :=
  .object [("errors", .array (f.errors.map Diagnostic.toJson))]

end CompileFailure

/-- A checked document without references. -/
structure ResolvedDocument where
  version : ApiVersion
  root : Json

namespace ResolvedDocument

/-- The root, if it keeps to the subset. -/
def checked (root : Json) : Except CompileFailure Json :=
  match Subset.violations root with
  | [] => .ok root
  | errors => .error ⟨errors⟩

/-- Reads, checks and resolves a document. -/
def ofText (text : String) : Except CompileFailure ResolvedDocument := do
  let parsed ← (ParsedDocument.ofText text).mapError fun e => .ofDiagnostic e.diagnostic
  let root ← checked parsed.root
  let resolved ← (Reference.resolve root).mapError .ofDiagnostic
  return ⟨parsed.version, resolved⟩

end ResolvedDocument

/-- The hash of a document and the identifier that it compiles to. -/
structure DocumentHash where
  hash : String
  id : String
deriving DecidableEq

namespace DocumentHash

/-- The hash and the identifier of a resolved root; an empty session token is none. -/
def ofRoot (root : Json) (token : Option String) : DocumentHash :=
  let hash := Canonical.contentHash root
  ⟨hash, Canonical.compileId hash (token.filter fun t => !t.isEmpty)⟩

/-- The hash and the identifier of a document text. -/
def ofText (text : String) (token : Option String) : Except CompileFailure DocumentHash :=
  (ResolvedDocument.ofText text).map fun d => ofRoot d.root token

/-- The JSON form of a hash. -/
def toJson (h : DocumentHash) : Json := .object [("hash", .string h.hash), ("id", .string h.id)]

end DocumentHash

end ApiScreens
