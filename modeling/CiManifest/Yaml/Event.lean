import CiManifest.Yaml.Token.Lexer

/-!
# YAML events

The parser turns tokens into events, the way YAML's grammar nests them: a stream
holds documents, a document holds one node, and a node is an alias, a scalar, or
a sequence or mapping bracketed by a start and an end event. Anchors and tags
ride on the event that starts a node. A tag arrives resolved: a handle is
replaced by the prefix a `%TAG` directive (or the defaults `!` and `!!`) gives
it.

Each event carries the mark where its node starts, including an anchor or a tag
written in front of it.
-/

namespace CiManifest.Yaml

/-- What an event is. -/
inductive EventKind where
  | streamStart
  | streamEnd
  | documentStart
  | documentEnd
  | alias (name : String)
  | scalar (anchor : Option String) (tag : Option String) (value : String)
      (style : ScalarStyle)
  | sequenceStart (anchor : Option String) (tag : Option String)
  | sequenceEnd
  | mappingStart (anchor : Option String) (tag : Option String)
  | mappingEnd
  deriving Repr, BEq, Inhabited

/-- An event and the mark where it starts. -/
structure Event where
  kind : EventKind
  start : Mark
  deriving Repr, Inhabited

/-- Where the parser is in the grammar. -/
inductive Stage where
  | streamStart
  | implicitDocumentStart
  | documentStart
  | documentContent
  | documentEnd
  | blockNode
  | blockNodeOrIndentlessSequence
  | flowNode
  | blockSequenceFirstEntry
  | blockSequenceEntry
  | indentlessSequenceEntry
  | blockMappingFirstKey
  | blockMappingKey
  | blockMappingValue
  | flowSequenceFirstEntry
  | flowSequenceEntry
  | flowSequenceEntryMappingKey
  | flowSequenceEntryMappingValue
  | flowSequenceEntryMappingEnd
  | flowMappingFirstKey
  | flowMappingKey
  | flowMappingValue
  | flowMappingEmptyValue
  | finished
  deriving Repr, BEq, Inhabited

/-- The parser: the lexer, the current stage, the stages to return to, the
marks where the open collections start, and the tag handles of the current
document. -/
structure EventReader where
  lexer : Lexer
  stage : Stage := .streamStart
  stages : List Stage := []
  marks : List Mark := []
  tagHandles : List (String × String) := []
  deriving Inhabited

/-- Parsing steps: they change the parser or stop at a syntax error. -/
abbrev Parse := StateT EventReader (Except SyntaxError)

end CiManifest.Yaml
