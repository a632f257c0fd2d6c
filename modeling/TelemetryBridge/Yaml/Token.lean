/-!
# YAML tokens

The tokenizer cuts a YAML text into tokens: the markers of the stream and its documents, the
directives, the indicators of block and flow collections, anchors, aliases, tags and scalars.
Block collections have no written brackets; the tokenizer infers where they start from the
indentation and where they end from a line indented less (`blockEnd`).

A position in the text is a *mark*: the index of a character, its line and its column, all
counted from zero.

Main definitions: `Yaml.Mark`, `Yaml.Style`, `Yaml.Token`.
-/

namespace TelemetryBridge

namespace Yaml

/-- A position in a text: a character's index, line and column, all from zero. -/
structure Mark where
  index : Nat := 0
  line : Nat := 0
  column : Nat := 0
  deriving Repr, DecidableEq, Inhabited

/-- How a scalar is written. -/
inductive Style where
  | plain
  | singleQuoted
  | doubleQuoted
  | literal
  | folded
  deriving Repr, DecidableEq, Inhabited

/-- A token of a YAML text. -/
inductive Token where
  | streamStart
  | streamEnd
  /-- `%YAML major.minor` -/
  | version (major minor : Nat)
  /-- `%TAG handle expansion` -/
  | tagDirective (handle expansion : String)
  /-- `---` -/
  | documentStart
  /-- `...` -/
  | documentEnd
  | blockSequenceStart
  | blockMappingStart
  | blockEnd
  /-- `[` -/
  | flowSequenceStart
  /-- `]` -/
  | flowSequenceEnd
  /-- `{` -/
  | flowMappingStart
  /-- `}` -/
  | flowMappingEnd
  /-- `-` before a blank -/
  | blockEntry
  /-- `,` -/
  | flowEntry
  /-- `?`, or the start of a key followed by `:` -/
  | key
  /-- `:` -/
  | value
  /-- `*name` -/
  | reference (name : String)
  /-- `&name` -/
  | anchor (name : String)
  /-- `!handle!suffix`, `!suffix`, `!` or `!<verbatim>` (with an empty handle) -/
  | tag (handle suffix : String)
  | scalar (text : String) (style : Style)
  deriving Repr, DecidableEq, Inhabited

end Yaml

end TelemetryBridge
