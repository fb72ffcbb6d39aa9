import CiManifest.Yaml.Event

/-!
# From tokens to events

One `step` reads tokens and gives the next event, following YAML's grammar for
block and flow collections. A node's start pushes the stage to return to, and
the node's end pops it; an entry or value that is left out becomes an empty
plain scalar.

Syntax errors name the collection being read and the mark where it started.
`run` steps until the stream ends or an error stops it.
-/

namespace CiManifest.Yaml

namespace Parse

/-- Runs a lexing step. -/
def lex {α : Type} (s : Scan α) : Parse α := fun r => do
  let (a, lexer) ← s.run r.lexer
  pure (a, { r with lexer })

/-- The token in front. -/
def token : Parse Token :=
  lex Scan.peekToken

/-- Moves past the token in front. -/
def next : Parse Unit :=
  lex Scan.skipToken

/-- Sets the stage. -/
def goTo (stage : Stage) : Parse Unit :=
  modify fun r => { r with stage }

/-- Remembers a stage to return to. -/
def pushStage (stage : Stage) : Parse Unit :=
  modify fun r => { r with stages := stage :: r.stages }

/-- Returns to the last remembered stage. -/
def popStage : Parse Unit :=
  modify fun r => { r with stage := r.stages.headD .finished, stages := r.stages.drop 1 }

/-- Remembers where a collection starts. -/
def pushMark (m : Mark) : Parse Unit :=
  modify fun r => { r with marks := m :: r.marks }

/-- Forgets where the innermost collection starts, and gives that mark. -/
def popMark : Parse Mark := do
  let r ← get
  set { r with marks := r.marks.drop 1 }
  pure (r.marks.headD {})

/-- Stops with an error that has no context. -/
def failAt {α : Type} (problem : String) (m : Mark) : Parse α :=
  throw { problem, problemMark := m }

/-- Stops with an error inside a construct that starts at `contextMark`. -/
def failIn {α : Type} (context : String) (contextMark : Mark) (problem : String) (m : Mark) :
    Parse α :=
  throw { problem, problemMark := m, context := some context, contextMark }

/-- An empty plain scalar. -/
def emptyScalar (m : Mark) : Event :=
  { kind := .scalar none none "" .plain, start := m }

/-- The tag handles every document has. -/
def defaultHandles : List (String × String) :=
  [("!", "!"), ("!!", "tag:yaml.org,2002:")]

/-- Adds a tag handle; a handle given twice by directives is an error, and a
default does not replace a directive. -/
def addHandle (handle expansion : String) (isDefault : Bool) (m : Mark) : Parse Unit := do
  let r ← get
  if r.tagHandles.any (·.1 == handle) then
    if isDefault then return
    failAt "found duplicate %TAG directive" m
  set { r with tagHandles := r.tagHandles ++ [(handle, expansion)] }

/-- Reads the directives in front of a document. -/
def directives : Parse Unit := do
  let mut version := false
  let bound := (← get).lexer.input.size + 2
  for _ in [0:bound] do
    let t ← token
    match t.kind with
    | .versionDirective major minor =>
        if version then failAt "found duplicate %YAML directive" t.start
        if major != 1 || (minor != 1 && minor != 2) then
          failAt "found incompatible YAML document" t.start
        version := true
        next
    | .tagDirective handle expansion =>
        addHandle handle expansion false t.start
        next
    | _ => break
  let t ← token
  for (handle, expansion) in defaultHandles do
    addHandle handle expansion true t.start

/-- The start of the stream. -/
def streamStart : Parse Event := do
  let t ← token
  if t.kind != .streamStart then failAt "did not find expected <stream-start>" t.start
  goTo .implicitDocumentStart
  next
  pure { kind := .streamStart, start := t.start }

/-- The start of a document, or the end of the stream. -/
def documentStart (implicit : Bool) : Parse Event := do
  let mut t ← token
  if !implicit then
    for _ in [0:(← get).lexer.input.size + 2] do
      if t.kind != .documentEnd then break
      next
      t ← token
  let isDirective := match t.kind with
    | .versionDirective _ _ => true
    | .tagDirective _ _ => true
    | _ => false
  if implicit && !isDirective && t.kind != .documentStart && t.kind != .streamEnd then
    directives
    pushStage .documentEnd
    goTo .blockNode
    return { kind := .documentStart, start := t.start }
  if t.kind != .streamEnd then
    let startMark := t.start
    directives
    let u ← token
    if u.kind != .documentStart then failAt "did not find expected <document start>" u.start
    pushStage .documentEnd
    goTo .documentContent
    next
    return { kind := .documentStart, start := startMark }
  goTo .finished
  next
  pure { kind := .streamEnd, start := t.start }

/-- The end of a document, explicit (`...`) or not. -/
def documentEnd : Parse Event := do
  let t ← token
  if t.kind == .documentEnd then next
  modify fun r => { r with tagHandles := [] }
  goTo .documentStart
  pure { kind := .documentEnd, start := t.start }

/-- Resolves a tag's handle with the document's tag handles. -/
def resolveTag (handle suffix : String) (startMark tagMark : Mark) : Parse String := do
  if handle.isEmpty then return suffix
  match (← get).tagHandles.find? (·.1 == handle) with
  | some (_, expansion) => pure (expansion ++ suffix)
  | none => failIn "while parsing a node" startMark "found undefined tag handle" tagMark

/-- A node: an alias, or a scalar or collection start with its anchor and tag. -/
def node (block indentless : Bool) : Parse Event := do
  let first ← token
  if let .alias name := first.kind then
    popStage
    next
    return { kind := .alias name, start := first.start }
  let startMark := first.start
  let mut t := first
  let mut anchor : Option String := none
  let mut tagParts : Option (String × String) := none
  let mut tagMark := first.start
  match first.kind with
  | .anchor name =>
      anchor := some name
      next
      t ← token
      if let .tag handle suffix := t.kind then
        tagParts := some (handle, suffix)
        tagMark := t.start
        next
        t ← token
  | .tag handle suffix =>
      tagParts := some (handle, suffix)
      next
      t ← token
      if let .anchor name := t.kind then
        anchor := some name
        next
        t ← token
  | _ => pure ()
  let tag ← match tagParts with
    | none => pure none
    | some (handle, suffix) => some <$> resolveTag handle suffix startMark tagMark
  if indentless && t.kind == .blockEntry then
    goTo .indentlessSequenceEntry
    return { kind := .sequenceStart anchor tag, start := startMark }
  match t.kind with
  | .scalar value style =>
      popStage
      next
      pure { kind := .scalar anchor tag value style, start := startMark }
  | .flowSequenceStart =>
      goTo .flowSequenceFirstEntry
      pure { kind := .sequenceStart anchor tag, start := startMark }
  | .flowMappingStart =>
      goTo .flowMappingFirstKey
      pure { kind := .mappingStart anchor tag, start := startMark }
  | .blockSequenceStart =>
      if block then
        goTo .blockSequenceFirstEntry
        pure { kind := .sequenceStart anchor tag, start := startMark }
      else if anchor.isSome || tag.isSome then
        popStage
        pure { kind := .scalar anchor tag "" .plain, start := startMark }
      else
        failIn "while parsing a flow node" startMark "did not find expected node content" t.start
  | .blockMappingStart =>
      if block then
        goTo .blockMappingFirstKey
        pure { kind := .mappingStart anchor tag, start := startMark }
      else if anchor.isSome || tag.isSome then
        popStage
        pure { kind := .scalar anchor tag "" .plain, start := startMark }
      else
        failIn "while parsing a flow node" startMark "did not find expected node content" t.start
  | _ =>
      if anchor.isSome || tag.isSome then
        popStage
        pure { kind := .scalar anchor tag "" .plain, start := startMark }
      else
        failIn (if block then "while parsing a block node" else "while parsing a flow node")
          startMark "did not find expected node content" t.start

/-- The content of an explicit document, which may be left out. -/
def documentContent : Parse Event := do
  let t ← token
  match t.kind with
  | .versionDirective _ _ | .tagDirective _ _ | .documentStart | .documentEnd | .streamEnd =>
      popStage
      pure (emptyScalar t.start)
  | _ => node true false

/-- An entry of a block sequence, or its end. -/
def blockSequenceEntry (first : Bool) : Parse Event := do
  if first then
    pushMark (← token).start
    next
  let t ← token
  match t.kind with
  | .blockEntry =>
      next
      let u ← token
      if u.kind != .blockEntry && u.kind != .blockEnd then
        pushStage .blockSequenceEntry
        node true false
      else
        goTo .blockSequenceEntry
        pure (emptyScalar t.stop)
  | .blockEnd =>
      popStage
      let _ ← popMark
      next
      pure { kind := .sequenceEnd, start := t.start }
  | _ =>
      failIn "while parsing a block collection" (← popMark) "did not find expected '-' indicator"
        t.start

/-- An entry of a sequence written at its parent mapping's indentation. -/
def indentlessSequenceEntry : Parse Event := do
  let t ← token
  if t.kind == .blockEntry then
    next
    let u ← token
    if u.kind != .blockEntry && u.kind != .key && u.kind != .value && u.kind != .blockEnd then
      pushStage .indentlessSequenceEntry
      node true false
    else
      goTo .indentlessSequenceEntry
      pure (emptyScalar t.stop)
  else
    popStage
    pure { kind := .sequenceEnd, start := t.start }

/-- A key of a block mapping, or its end. -/
def blockMappingKey (first : Bool) : Parse Event := do
  if first then
    pushMark (← token).start
    next
  let t ← token
  match t.kind with
  | .key =>
      next
      let u ← token
      if u.kind != .key && u.kind != .value && u.kind != .blockEnd then
        pushStage .blockMappingValue
        node true true
      else
        goTo .blockMappingValue
        pure (emptyScalar t.stop)
  | .blockEnd =>
      popStage
      let _ ← popMark
      next
      pure { kind := .mappingEnd, start := t.start }
  | _ =>
      failIn "while parsing a block mapping" (← popMark) "did not find expected key" t.start

/-- A value of a block mapping, which may be left out. -/
def blockMappingValue : Parse Event := do
  let t ← token
  if t.kind == .value then
    next
    let u ← token
    if u.kind != .key && u.kind != .value && u.kind != .blockEnd then
      pushStage .blockMappingKey
      node true true
    else
      goTo .blockMappingKey
      pure (emptyScalar t.stop)
  else
    goTo .blockMappingKey
    pure (emptyScalar t.start)

/-- An entry of a flow sequence, or its end. -/
def flowSequenceEntry (first : Bool) : Parse Event := do
  if first then
    pushMark (← token).start
    next
  let mut t ← token
  if t.kind != .flowSequenceEnd then
    if !first then
      if t.kind == .flowEntry then
        next
        t ← token
      else
        failIn "while parsing a flow sequence" (← popMark) "did not find expected ',' or ']'"
          t.start
    if t.kind == .key then
      goTo .flowSequenceEntryMappingKey
      next
      return { kind := .mappingStart none none, start := t.start }
    if t.kind != .flowSequenceEnd then
      pushStage .flowSequenceEntry
      return (← node false false)
  popStage
  let _ ← popMark
  next
  pure { kind := .sequenceEnd, start := t.start }

/-- The key of a one-entry mapping inside a flow sequence. -/
def flowSequenceEntryMappingKey : Parse Event := do
  let t ← token
  if t.kind != .value && t.kind != .flowEntry && t.kind != .flowSequenceEnd then
    pushStage .flowSequenceEntryMappingValue
    node false false
  else
    goTo .flowSequenceEntryMappingValue
    pure (emptyScalar t.start)

/-- The value of a one-entry mapping inside a flow sequence. -/
def flowSequenceEntryMappingValue : Parse Event := do
  let mut t ← token
  if t.kind == .value then
    next
    t ← token
    if t.kind != .flowEntry && t.kind != .flowSequenceEnd then
      pushStage .flowSequenceEntryMappingEnd
      return (← node false false)
  goTo .flowSequenceEntryMappingEnd
  pure (emptyScalar t.start)

/-- The end of a one-entry mapping inside a flow sequence. -/
def flowSequenceEntryMappingEnd : Parse Event := do
  let t ← token
  goTo .flowSequenceEntry
  pure { kind := .mappingEnd, start := t.start }

/-- A key of a flow mapping, or its end. -/
def flowMappingKey (first : Bool) : Parse Event := do
  if first then
    pushMark (← token).start
    next
  let mut t ← token
  if t.kind != .flowMappingEnd then
    if !first then
      if t.kind == .flowEntry then
        next
        t ← token
      else
        failIn "while parsing a flow mapping" (← popMark) "did not find expected ',' or '\x7d'"
          t.start
    if t.kind == .key then
      next
      let u ← token
      if u.kind != .value && u.kind != .flowEntry && u.kind != .flowMappingEnd then
        pushStage .flowMappingValue
        return (← node false false)
      goTo .flowMappingValue
      return emptyScalar u.start
    if t.kind != .flowMappingEnd then
      pushStage .flowMappingEmptyValue
      return (← node false false)
  popStage
  let _ ← popMark
  next
  pure { kind := .mappingEnd, start := t.start }

/-- A value of a flow mapping, which may be left out. -/
def flowMappingValue (empty : Bool) : Parse Event := do
  let mut t ← token
  if empty then
    goTo .flowMappingKey
    return emptyScalar t.start
  if t.kind == .value then
    next
    t ← token
    if t.kind != .flowEntry && t.kind != .flowMappingEnd then
      pushStage .flowMappingKey
      return (← node false false)
  goTo .flowMappingKey
  pure (emptyScalar t.start)

/-- The next event, or nothing once the stream has ended. -/
def step : Parse (Option Event) := do
  match (← get).stage with
  | .streamStart => some <$> streamStart
  | .implicitDocumentStart => some <$> documentStart true
  | .documentStart => some <$> documentStart false
  | .documentContent => some <$> documentContent
  | .documentEnd => some <$> documentEnd
  | .blockNode => some <$> node true false
  | .blockNodeOrIndentlessSequence => some <$> node true true
  | .flowNode => some <$> node false false
  | .blockSequenceFirstEntry => some <$> blockSequenceEntry true
  | .blockSequenceEntry => some <$> blockSequenceEntry false
  | .indentlessSequenceEntry => some <$> indentlessSequenceEntry
  | .blockMappingFirstKey => some <$> blockMappingKey true
  | .blockMappingKey => some <$> blockMappingKey false
  | .blockMappingValue => some <$> blockMappingValue
  | .flowSequenceFirstEntry => some <$> flowSequenceEntry true
  | .flowSequenceEntry => some <$> flowSequenceEntry false
  | .flowSequenceEntryMappingKey => some <$> flowSequenceEntryMappingKey
  | .flowSequenceEntryMappingValue => some <$> flowSequenceEntryMappingValue
  | .flowSequenceEntryMappingEnd => some <$> flowSequenceEntryMappingEnd
  | .flowMappingFirstKey => some <$> flowMappingKey true
  | .flowMappingKey => some <$> flowMappingKey false
  | .flowMappingValue => some <$> flowMappingValue false
  | .flowMappingEmptyValue => some <$> flowMappingValue true
  | .finished => pure none

end Parse

/-- Steps at most `fuel` times from `r`, collecting the events; stops at the
end of the stream or at the first syntax error, which comes with the events
read before it. -/
def EventReader.collect (fuel : Nat) (r : EventReader) (acc : Array Event) :
    Array Event × Option SyntaxError :=
  match fuel with
  | 0 => (acc, none)
  | fuel + 1 =>
      match Parse.step.run r with
      | .error e => (acc, some e)
      | .ok (none, _) => (acc, none)
      | .ok (some event, r') => EventReader.collect fuel r' (acc.push event)

/-- A bound on the events of a text of `n` characters: every event but a few
per token reads a token, and every token reads a character. -/
def eventBound (n : Nat) : Nat :=
  8 * n + 16

/-- The events of a text, and the syntax error that stopped them if any. -/
def events (text : String) : Array Event × Option SyntaxError :=
  match Lexer.start text with
  | .error e => (#[], some e)
  | .ok lexer => EventReader.collect (eventBound lexer.input.size) { lexer } #[]

end CiManifest.Yaml
