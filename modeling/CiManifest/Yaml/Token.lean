/-!
# YAML tokens and syntax errors

A YAML text is first cut into tokens. Every token records where it starts and
ends as a mark: the character index, the 0-based line and the 0-based column,
both counted in characters.

A syntax error names the problem and where it was found, and may name what was
being read when it happened and where that began. Its message writes marks as
1-based `line L column C`, leaves out a mark at the very start of the text, and
leaves out the context's mark when it equals the problem's.
-/

namespace CiManifest.Yaml

/-- A position in the text. -/
structure Mark where
  index : Nat := 0
  line : Nat := 0
  column : Nat := 0
  deriving Repr, BEq, Inhabited

/-- Whether the mark is the start of the text, which messages do not cite. -/
def Mark.isStart (m : Mark) : Bool :=
  m.line == 0 && m.column == 0

/-- A mark as messages write it. -/
def Mark.text (m : Mark) : String :=
  "line " ++ toString (m.line + 1) ++ " column " ++ toString (m.column + 1)

/-- A syntax error. `offset` is the byte offset of a character refused while
decoding the text, where no mark is known. -/
structure SyntaxError where
  problem : String
  problemMark : Mark := {}
  offset : Nat := 0
  context : Option String := none
  contextMark : Mark := {}
  deriving Repr, Inhabited

/-- The message of a syntax error. -/
def SyntaxError.message (e : SyntaxError) : String :=
  let place :=
    if !e.problemMark.isStart then " at " ++ e.problemMark.text
    else if e.offset != 0 then " at position " ++ toString e.offset
    else ""
  let context :=
    match e.context with
    | some c =>
        let differs := e.contextMark.line != e.problemMark.line ||
          e.contextMark.column != e.problemMark.column
        ", " ++ c ++ (if !e.contextMark.isStart && differs then " at " ++ e.contextMark.text else "")
    | none => ""
  e.problem ++ place ++ context

/-- How a scalar was written. -/
inductive ScalarStyle where
  | plain
  | singleQuoted
  | doubleQuoted
  | literal
  | folded
  deriving Repr, BEq, Inhabited

/-- What a token is. -/
inductive TokenKind where
  | streamStart
  | streamEnd
  | versionDirective (major minor : Nat)
  | tagDirective (handle expansion : String)
  | documentStart
  | documentEnd
  | blockSequenceStart
  | blockMappingStart
  | blockEnd
  | flowSequenceStart
  | flowSequenceEnd
  | flowMappingStart
  | flowMappingEnd
  | blockEntry
  | flowEntry
  | key
  | value
  | alias (name : String)
  | anchor (name : String)
  | tag (handle suffix : String)
  | scalar (text : String) (style : ScalarStyle)
  deriving Repr, BEq, Inhabited

/-- A token with the marks of its first character and of the character after it. -/
structure Token where
  kind : TokenKind
  start : Mark
  stop : Mark
  deriving Repr, Inhabited

end CiManifest.Yaml
