import CiManifest.Yaml.Token

/-!
# The lexer state

The lexer reads the characters of a text left to right and keeps what YAML's
token rules need: the current mark, the nesting of flow collections, the stack
of block indentation levels, and for every flow level the place where a simple
key (a key written without `?`) may have started. Tokens wait in a queue until
the parser takes them; a key found late is inserted in front of the tokens that
follow its start.

Past the end of the text the lexer sees the character `'\x00'`, which a text
cannot contain.
-/

namespace CiManifest.Yaml

/-- A place where a simple key may have started. -/
structure SimpleKey where
  possible : Bool := false
  required : Bool := false
  tokenNumber : Nat := 0
  mark : Mark := {}
  deriving Repr, Inhabited

/-- The state of the lexer. -/
structure Lexer where
  input : Array Char
  mark : Mark := {}
  streamStartProduced : Bool := false
  streamEndProduced : Bool := false
  flowLevel : Nat := 0
  queue : List Token := []
  tokensParsed : Nat := 0
  tokenAvailable : Bool := false
  indent : Int := -1
  indents : List Int := []
  simpleKeyAllowed : Bool := false
  /-- One entry per flow level, the innermost first. -/
  simpleKeys : List SimpleKey := []
  deriving Inhabited

/-- Lexing steps: they change the state or stop at a syntax error. -/
abbrev Scan := StateT Lexer (Except SyntaxError)

/-- A line break: CR, LF, NEL, LS or PS. -/
def isBreak (c : Char) : Bool :=
  c == '\r' || c == '\n' || c == '\x85' || c == '\u2028' || c == '\u2029'

/-- A space or a tab. -/
def isBlank (c : Char) : Bool :=
  c == ' ' || c == '\t'

/-- The end of the text. -/
def isEnd (c : Char) : Bool :=
  c == '\x00'

/-- A blank, a break or the end. -/
def isBlankOrEnd (c : Char) : Bool :=
  isBlank c || isBreak c || isEnd c

/-- A break or the end. -/
def isBreakOrEnd (c : Char) : Bool :=
  isBreak c || isEnd c

/-- A character allowed in anchors and tag handles: ASCII letters, digits, `_`
and `-`. -/
def isWordChar (c : Char) : Bool :=
  c.isAlphanum && c.toNat < 128 || c == '_' || c == '-'

/-- An ASCII digit. -/
def isDigitChar (c : Char) : Bool :=
  '0' ≤ c && c ≤ '9'

/-- The value of an ASCII hex digit. -/
def hexDigitValue (c : Char) : Option Nat :=
  if '0' ≤ c && c ≤ '9' then some (c.toNat - 48)
  else if 'a' ≤ c && c ≤ 'f' then some (c.toNat - 87)
  else if 'A' ≤ c && c ≤ 'F' then some (c.toNat - 55)
  else none

namespace Scan

/-- The character `k` places ahead. -/
def peek (k : Nat := 0) : Scan Char := do
  let s ← get
  pure (s.input.getD (s.mark.index + k) '\x00')

/-- The current mark. -/
def mark : Scan Mark := do
  pure (← get).mark

/-- Moves past one character of the current line. -/
def skip : Scan Unit :=
  modify fun s =>
    { s with mark := { s.mark with index := s.mark.index + 1, column := s.mark.column + 1 } }

/-- Moves past a line break; CR LF counts as one break. -/
def skipLine : Scan Unit := do
  let c ← peek
  let d ← peek 1
  if c == '\r' && d == '\n' then
    modify fun s =>
      { s with mark := { index := s.mark.index + 2, line := s.mark.line + 1, column := 0 } }
  else if isBreak c then
    modify fun s =>
      { s with mark := { index := s.mark.index + 1, line := s.mark.line + 1, column := 0 } }

/-- Takes the current character. -/
def take : Scan Char := do
  let c ← peek
  skip
  pure c

/-- Takes a line break: CR LF, CR, LF and NEL read as LF; LS and PS stay. -/
def takeLine : Scan String := do
  let c ← peek
  if c == '\u2028' || c == '\u2029' then
    skipLine
    pure (String.singleton c)
  else if isBreak c then
    skipLine
    pure "\n"
  else pure ""

/-- Stops with a syntax error at the current mark. -/
def fail {α : Type} (context : Option String) (contextMark : Mark) (problem : String) :
    Scan α := do
  let m ← mark
  throw { problem, problemMark := m, context, contextMark }

/-- Adds a token at the end of the queue. -/
def enqueue (t : Token) : Scan Unit :=
  modify fun s => { s with queue := s.queue ++ [t] }

/-- Inserts a token at position `n` of the queue. -/
def insertToken (n : Nat) (t : Token) : Scan Unit :=
  modify fun s => { s with queue := s.queue.take n ++ t :: s.queue.drop n }

/-- The simple key of the innermost flow level. -/
def topKey : Scan SimpleKey := do
  pure ((← get).simpleKeys.headD {})

/-- Replaces the simple key of the innermost flow level. -/
def setTopKey (k : SimpleKey) : Scan Unit :=
  modify fun s => { s with simpleKeys := match s.simpleKeys with
    | [] => [k]
    | _ :: rest => k :: rest }

/-- Forgets the simple key of the innermost flow level; a required one was
never completed, which is an error. -/
def removeSimpleKey : Scan Unit := do
  let k ← topKey
  if k.possible && k.required then
    fail (some "while scanning a simple key") k.mark "could not find expected ':'"
  setTopKey { k with possible := false }

/-- Keys may not span lines or run past 1024 characters: forgets the places
that can no longer start one, failing on a required one. -/
def staleSimpleKeys : Scan Unit := do
  let s ← get
  let mut kept : List SimpleKey := []
  for k in s.simpleKeys do
    if k.possible && (k.mark.line < s.mark.line || k.mark.index + 1024 < s.mark.index) then
      if k.required then
        fail (some "while scanning a simple key") k.mark "could not find expected ':'"
      kept := kept ++ [{ k with possible := false }]
    else
      kept := kept ++ [k]
  set { (← get) with simpleKeys := kept }

/-- Records that a simple key may start here. It is required when, in block
context, it starts at the current indentation. -/
def saveSimpleKey : Scan Unit := do
  let s ← get
  let required := s.flowLevel == 0 && s.indent == (s.mark.column : Int)
  if s.simpleKeyAllowed then
    let k : SimpleKey :=
      { possible := true, required, tokenNumber := s.tokensParsed + s.queue.length,
        mark := s.mark }
    removeSimpleKey
    setTopKey k

/-- Enters a flow collection. -/
def increaseFlowLevel : Scan Unit :=
  modify fun s => { s with simpleKeys := {} :: s.simpleKeys, flowLevel := s.flowLevel + 1 }

/-- Leaves a flow collection. -/
def decreaseFlowLevel : Scan Unit :=
  modify fun s =>
    if s.flowLevel > 0 then
      { s with flowLevel := s.flowLevel - 1, simpleKeys := s.simpleKeys.drop 1 }
    else s

/-- In block context, opens a collection at `column` when it lies deeper than
the current indentation: the token `kind` goes to the end of the queue, or to
position `number` when given. -/
def rollIndent (column : Nat) (number : Option Nat) (kind : TokenKind) (m : Mark) :
    Scan Unit := do
  let s ← get
  if s.flowLevel == 0 && s.indent < (column : Int) then
    set { s with indents := s.indent :: s.indents, indent := column }
    let t : Token := { kind, start := m, stop := m }
    match number with
    | none => enqueue t
    | some n => insertToken (n - s.tokensParsed) t

/-- In block context, closes every collection deeper than `column`. -/
def unrollIndent (column : Int) : Scan Unit := do
  if (← get).flowLevel == 0 then
    for _ in [0:(← get).indents.length + 1] do
      let s ← get
      if s.indent > column then
        enqueue { kind := .blockEnd, start := s.mark, stop := s.mark }
        modify fun s => { s with indent := s.indents.headD (-1), indents := s.indents.drop 1 }
      else break

end Scan

end CiManifest.Yaml
