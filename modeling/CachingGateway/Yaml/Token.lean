/-
Tokens of the block and flow notation. Indentation has become explicit: a block collection has a
token where it begins and one where it ends.
-/

namespace CachingGateway.Yaml

inductive ScalarStyle where
  | plain
  | singleQuoted
  | doubleQuoted
  | literal
  | folded
  deriving DecidableEq, Repr

/-- A tag as written: a handle, empty for a tag given whole, and the rest. -/
structure WrittenTag where
  handle : String
  suffix : String
  deriving DecidableEq, Repr

inductive Token where
  | streamEnd
  | versionDirective (major minor : Nat)
  | tagDirective (handle uri : String)
  | documentStart
  | documentEnd
  | blockSequenceStart
  | blockMappingStart
  | blockEnd
  | flowSequenceStart
  | flowSequenceEnd
  | flowMappingStart
  | flowMappingEnd
  | blockEntry
  | flowEntry
  | key
  | value
  | alias (name : String)
  | anchor (name : String)
  | tag (written : WrittenTag)
  | scalar (text : String) (style : ScalarStyle)
  deriving DecidableEq, Repr

end CachingGateway.Yaml
