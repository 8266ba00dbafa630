import ApiScreens.Json.Basic
import ApiScreens.Yaml.Value

/-!
# JSON values of YAML values

Tags are dropped, keys become strings, and of entries with one key the last stays. A value that
holds an infinite number or a key that is no plain scalar has no JSON value.
-/

namespace ApiScreens.Yaml

/-- Why a YAML value has no JSON value. -/
inductive ToJsonError where
  | notFinite (n : Number)
  | keyNotScalar

/-- What a message says about the cause. -/
def ToJsonError.message : ToJsonError → String
  | notFinite n => s!"unsupported non-finite number: {n.text}"
  | keyNotScalar => "unsupported mapping key (only scalar keys are allowed)"

namespace Number

/-- The number of a JSON document. -/
def toJson : Number → Except ToJsonError Json
  | int n h => .ok (.number (.int n h))
  | float d =>
    if h : d.isFinite = true then .ok (.number (.double d h)) else .error (.notFinite (float d))

end Number

namespace Value

/-- The text of a key. -/
def keyText : Value → Except ToJsonError String
  | string s => .ok s
  | number n => .ok n.text
  | bool b => .ok (if b then "true" else "false")
  | null => .ok "null"
  | _ => .error .keyNotScalar

mutual

/-- The JSON value of a YAML value. -/
def toJson : Value → Except ToJsonError Json
  | null => .ok .null
  | bool b => .ok (.bool b)
  | number n => n.toJson
  | string s => .ok (.string s)
  | sequence items => do return .array (← toJsonItems items)
  | mapping entries => do return Json.ofMembers (← toJsonEntries entries)
  | tagged _ value => value.toJson

/-- The JSON values of items. -/
def toJsonItems : List Value → Except ToJsonError (List Json)
  | [] => .ok []
  | v :: rest => do
    let v ← v.toJson
    return v :: (← toJsonItems rest)

/-- The JSON members of entries. -/
def toJsonEntries : List (Value × Value) → Except ToJsonError Json.Members
  | [] => .ok []
  | (k, v) :: rest => do
    let k ← k.keyText
    let v ← v.toJson
    return (k, v) :: (← toJsonEntries rest)

end

end Value

end ApiScreens.Yaml
