import WireCodecs.Yaml.Scalar
import WireCodecs.Yaml.Tag

/-! Tokens of YAML text. Block collections and simple keys, which the text shows only by indentation
and by the colon behind a key, have tokens of their own. -/

namespace WireCodecs.Yaml

inductive Token where
  | version (major minor : Nat)
  /-- The declaration of a tag handle with the start of a tag that it stands for. -/
  | handle (name : String) (meaning : List UInt8)
  | documentStart
  | documentEnd
  | blockSequenceStart
  | blockMappingStart
  /-- The end of either kind of block collection. -/
  | blockEnd
  | flowSequenceStart
  | flowSequenceEnd
  | flowMappingStart
  | flowMappingEnd
  | blockEntry
  | flowEntry
  | key
  | value
  | reference (name : String)
  | anchor (name : String)
  | tag (handle : String) (suffix : List UInt8)
  | scalar (style : ScalarStyle) (text : String)
  deriving DecidableEq, Repr

end WireCodecs.Yaml
