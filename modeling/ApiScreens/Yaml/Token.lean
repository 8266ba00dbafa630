import ApiScreens.Yaml.Tag

/-!
# Tokens of YAML texts

What a YAML text is made of once indentation has been turned into starts and ends.
-/

namespace ApiScreens.Yaml

/-- How a scalar is written. -/
inductive ScalarStyle where
  | plain
  | quoted
  | literal
  | folded
deriving DecidableEq

/-- A token. -/
inductive Token where
  | version (major minor : Nat)
  | tagHandle (handle : String) (stem : List UInt8)
  | documentStart
  | documentEnd
  | blockSequenceStart
  | blockMappingStart
  | blockEnd
  | flowSequenceStart
  | flowSequenceEnd
  | flowMappingStart
  | flowMappingEnd
  | blockEntry
  | flowEntry
  | key
  | value
  | aliased (name : String)
  | anchor (name : String)
  | tag (handle : String) (suffix : List UInt8)
  | scalar (style : ScalarStyle) (text : String)
deriving DecidableEq

end ApiScreens.Yaml
