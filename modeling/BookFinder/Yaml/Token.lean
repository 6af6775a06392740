/-! # Tokens of YAML -/

namespace BookFinder.Yaml

inductive Style where
  | plain
  | singleQuoted
  | doubleQuoted
  | literal
  | folded
deriving DecidableEq, Repr

/-- A tag as it is written: what a handle stands for is said by the directives. -/
inductive TagName where
  /-- The tag of a node that only says that its style decides. -/
  | nonSpecific
  | verbatim (uri : List Char)
  | shorthand (handle suffix : List Char)
deriving DecidableEq, Repr

inductive Token where
  | version (major minor : Nat)
  | tagDirective (handle uri : List Char)
  | documentStart
  | documentEnd
  | sequenceStart
  | mappingStart
  /-- A block collection ends where a line is indented less. -/
  | blockEnd
  | flowSequenceStart
  | flowSequenceEnd
  | flowMappingStart
  | flowMappingEnd
  /-- The dash before an item. -/
  | item
  /-- The comma between items or members. -/
  | comma
  | key
  | value
  /-- An alias, which refers to an anchor. -/
  | reference (name : List Char)
  | anchor (name : List Char)
  | tag (name : TagName)
  | scalar (style : Style) (text : List Char)
deriving DecidableEq, Repr

end BookFinder.Yaml
