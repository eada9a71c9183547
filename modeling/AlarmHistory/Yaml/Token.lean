/- The tokens of a YAML text. Indentation has become explicit: every block collection starts and
   ends with a token of its own. -/
namespace AlarmHistory.Yaml

inductive Style where
  | plain
  | singleQuoted
  | doubleQuoted
  | literal
  | folded
  deriving DecidableEq, Repr

/-- The bytes of a tag. They need not be a text, for escapes may stand for any byte. -/
abbrev TagBytes := List UInt8

inductive Token where
  | version (major minor : Nat)
  | tagDirective (handle : String) (stem : TagBytes)
  | documentStart
  | documentEnd
  | blockSequence
  | blockMapping
  | blockEnd
  | flowSequence
  | flowSequenceEnd
  | flowMapping
  | flowMappingEnd
  | entry
  | comma
  | key
  | value
  | alias (name : String)
  | anchor (name : String)
  | tag (handle : String) (suffix : TagBytes)
  | scalar (text : String) (style : Style)
  deriving DecidableEq, Repr

end AlarmHistory.Yaml
