import ApiScreens.Diagnostic
import ApiScreens.Json.Reader
import ApiScreens.Text.Blank
import ApiScreens.Yaml.ToJson

/-!
# Reading document texts

A document text that begins with a brace or a bracket is read as JSON, any other as YAML. The root
of a document is an object, which may state its version.
-/

namespace ApiScreens

/-- The format of a document text. -/
inductive Format where
  | json
  | yaml
deriving DecidableEq

/-- The name of a format. -/
def Format.name : Format → String
  | json => "Json"
  | yaml => "Yaml"

/-- The format that the first character shows which is not blank. -/
def Format.detect (text : String) : Format :=
  match text.toList.dropWhile Text.isBlank with
  | '\x7b' :: _ | '[' :: _ => json
  | _ => yaml

/-- The versions of the document format. -/
inductive ApiVersion where
  | v30
  | v31
deriving DecidableEq

/-- The name of a version. -/
def ApiVersion.name : ApiVersion → String
  | v30 => "3.0"
  | v31 => "3.1"

/-- The version that a root states; one that states no other counts as the older one. -/
def ApiVersion.detect (root : Json) : ApiVersion :=
  match (root.get? "openapi").bind Json.string? with
  | some v => if "3.1".toList.isPrefixOf v.toList then v31 else v30
  | none => v30

/-- A document as it was read. -/
structure ParsedDocument where
  root : Json
  version : ApiVersion
  format : Format

/-- Why a text is no document. -/
inductive ParseError where
  | empty
  | notJson
  | notYaml
  | noJsonForm (cause : Yaml.ToJsonError)
  | rootNotObject

namespace ParseError

/-- What a message says about the cause. Where a text does not follow its format, the readers of the
formats add their own words behind a colon; these are not told here. -/
def message : ParseError → String
  | empty => "document is empty"
  | notJson => "invalid JSON"
  | notYaml => "invalid YAML"
  | noJsonForm cause => cause.message
  | rootNotObject => "document root must be an object"

/-- The fault that is reported. -/
def diagnostic (e : ParseError) : Diagnostic := Diagnostic.parse e.message

end ParseError

namespace ParsedDocument

/-- The value of a text in a format. -/
def readRoot (text : String) : Format → Except ParseError Json
  | .json => (Json.read? text).elim (.error .notJson) .ok
  | .yaml =>
    match Yaml.Value.ofText? text with
    | some value => value.toJson.mapError .noJsonForm
    | none => .error .notYaml

/-- Reads a document. -/
def ofText (text : String) : Except ParseError ParsedDocument :=
  if Text.isBlankText text then .error .empty
  else do
    let format := Format.detect text
    match ← readRoot text format with
    | .null => .error .empty
    | .object members =>
      .ok ⟨.object members, ApiVersion.detect (.object members), format⟩
    | _ => .error .rootNotObject

end ParsedDocument

end ApiScreens
