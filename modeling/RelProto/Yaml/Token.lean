/-! The tokens of a document. -/
namespace RelProto.Yaml

inductive Style where
  | plain
  | singleQuoted
  | doubleQuoted
  | literal
  | folded
  deriving DecidableEq

/-- A tag spelled out. Percent escapes may write bytes that are no text. -/
abbrev Tag := List UInt8

def Tag.ofText (text : String) : Tag := text.toUTF8.toList

/-- A tag as it is written: a handle, which a directive may explain, and a suffix. -/
structure TagName where
  handle : String
  suffix : Tag
  deriving DecidableEq

inductive Token where
  | versionDirective (major minor : Nat)
  | tagDirective (handle : String) (meaning : Tag)
  | documentStart
  | documentEnd
  | blockSequenceStart
  | blockMappingStart
  | blockEnd
  | flowSequenceStart
  | flowSequenceEnd
  | flowMappingStart
  | flowMappingEnd
  | blockEntry
  | flowEntry
  | key
  | value
  | reference (name : String)
  | anchor (name : String)
  | tag (name : TagName)
  | scalar (text : String) (style : Style)
  deriving DecidableEq

end RelProto.Yaml
