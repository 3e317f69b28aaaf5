/-!
# Tokens of YAML

Tokens are the marks of a text, those that only its indentation stands for among them.

## Main definitions

* `Token`, `ScalarStyle`, `TagToken`.
-/

namespace PgMetrics.Yaml

/-- How a scalar is written. -/
inductive ScalarStyle where
  | plain | singleQuoted | doubleQuoted | literal | folded
  deriving DecidableEq, Repr

/-- A tag as it is written: a handle that stands for the start of a name, and the rest of it. -/
structure TagToken where
  handle : String
  suffix : String
  deriving DecidableEq, Repr

/-- A mark of a text. -/
inductive Token where
  | versionDirective (major minor : Nat)
  | tagDirective (handle start : String)
  | documentStart
  | documentEnd
  | blockSequenceStart
  | blockMappingStart
  | blockEnd
  | flowSequenceStart
  | flowSequenceEnd
  | flowMappingStart
  | flowMappingEnd
  | blockEntry
  | flowEntry
  | key
  | value
  | alias (name : String)
  | anchor (name : String)
  | tag (t : TagToken)
  | scalar (text : String) (style : ScalarStyle)
  deriving DecidableEq, Repr

end PgMetrics.Yaml
