import CiManifest.Yaml.Token.Scalar

/-!
# The lexer

Cuts a YAML text into tokens on demand. The parser looks at one token at a
time; the lexer reads ahead only as far as it must to tell whether a simple key
starts at the token in front, that is until the key is confirmed by a `:` or can
no longer be one (it is on an earlier line or more than 1024 characters back).

Directives (`%YAML`, `%TAG`), anchors and aliases, tags and the structural
indicators are read here; scalars are read by the functions of
`CiManifest.Yaml.Token.Scalar`.

Before any token, the text is checked for characters YAML refuses: control
characters other than tab, line feed and carriage return, surrogates and the two
non-characters U+FFFE and U+FFFF. A leading byte order mark is dropped.
-/

namespace CiManifest.Yaml

/-- Whether YAML accepts the character in a text. -/
def isAllowedChar (c : Char) : Bool :=
  let v := c.toNat
  v == 0x09 || v == 0x0A || v == 0x0D || (0x20 ≤ v && v ≤ 0x7E) || v == 0x85 ||
    (0xA0 ≤ v && v ≤ 0xD7FF) || (0xE000 ≤ v && v ≤ 0xFFFD) || 0x10000 ≤ v

/-- Finds the first refused character, with its byte offset; `offset` is the
byte offset of the first character of `cs`. -/
def firstRefused (offset : Nat) : List Char → Option Nat
  | [] => none
  | c :: rest => if isAllowedChar c then firstRefused (offset + c.utf8Size) rest else some offset

/-- The lexer at the start of a text, or the error for a refused character. -/
def Lexer.start (text : String) : Except SyntaxError Lexer :=
  let chars := text.toList
  let (chars, offset) :=
    match chars with
    | '\uFEFF' :: rest => (rest, 3)
    | _ => (chars, 0)
  match firstRefused offset chars with
  | some position => .error { problem := "control characters are not allowed", offset := position }
  | none => .ok { input := chars.toArray }

namespace Scan

/-- Skips spaces and tabs. -/
def skipBlanks : Scan Unit := do
  for _ in [0:(← bound)] do
    if isBlank (← peek) then skip else break

/-- Skips the rest of a line. -/
def skipToBreak : Scan Unit := do
  for _ in [0:(← bound)] do
    if isBreakOrEnd (← peek) then break
    skip

/-- Reads the name of a directive. -/
def directiveName (startMark : Mark) : Scan String := do
  let mut name := ""
  for _ in [0:(← bound)] do
    if isWordChar (← peek) then name := name.push (← take) else break
  if name.isEmpty then
    fail (some "while scanning a directive") startMark "could not find expected directive name"
  if !isBlankOrEnd (← peek) then
    fail (some "while scanning a directive") startMark
      "found unexpected non-alphabetical character"
  pure name

/-- Reads one number of a `%YAML` directive: at most nine digits. -/
def versionNumber (startMark : Mark) : Scan Nat := do
  let mut value := 0
  let mut length := 0
  for _ in [0:(← bound)] do
    let c ← peek
    if !isDigitChar c then break
    length := length + 1
    if length > 9 then
      fail (some "while scanning a %YAML directive") startMark
        "found extremely long version number"
    value := value * 10 + (c.toNat - 48)
    skip
  if length == 0 then
    fail (some "while scanning a %YAML directive") startMark "did not find expected version number"
  pure value

/-- Reads the `major.minor` of a `%YAML` directive. -/
def versionDirective (startMark : Mark) : Scan (Nat × Nat) := do
  skipBlanks
  let major ← versionNumber startMark
  if (← peek) != '.' then
    fail (some "while scanning a %YAML directive") startMark
      "did not find expected digit or '.' character"
  skip
  let minor ← versionNumber startMark
  pure (major, minor)

/-- Reads a tag handle: `!`, `!!` or `!name!`. Outside a directive a handle that
does not end in `!` is the start of a tag's suffix. -/
def tagHandle (directive : Bool) (startMark : Mark) : Scan String := do
  if (← peek) != '!' then
    fail (some (if directive then "while scanning a tag directive" else "while scanning a tag"))
      startMark "did not find expected '!'"
  let mut handle := String.singleton (← take)
  for _ in [0:(← bound)] do
    if isWordChar (← peek) then handle := handle.push (← take) else break
  if (← peek) == '!' then
    handle := handle.push (← take)
  else if directive && handle != "!" then
    fail (some "while parsing a tag directive") startMark "did not find expected '!'"
  pure handle

/-- A character allowed in a tag's URI; commas and square brackets only in a
verbatim tag or a directive. -/
def isUriChar (flowIndicators : Bool) (c : Char) : Bool :=
  isWordChar c || ";/?:@&=+$.%!~*'()".contains c ||
    (flowIndicators && (c == ',' || c == '[' || c == ']'))

/-- The number of bytes of a UTF-8 sequence with this first byte, zero for a
byte that cannot start one. -/
def sequenceWidth (octet : Nat) : Nat :=
  if octet &&& 0x80 == 0 then 1
  else if octet &&& 0xE0 == 0xC0 then 2
  else if octet &&& 0xF0 == 0xE0 then 3
  else if octet &&& 0xF8 == 0xF0 then 4
  else 0

/-- Reads the `%XX` escapes of one UTF-8 sequence in a URI. -/
def uriEscapes (directive : Bool) (startMark : Mark) : Scan String := do
  let context := some (if directive then "while parsing a %TAG directive" else "while parsing a tag")
  let mut width := 0
  let mut octets : Array UInt8 := #[]
  for _ in [0:4] do
    let c ← peek
    let high ← peek 1
    let low ← peek 2
    match c == '%', hexDigitValue high, hexDigitValue low with
    | true, some h, some l =>
        let octet := h * 16 + l
        if width == 0 then
          width := sequenceWidth octet
          if width == 0 then
            fail context startMark "found an incorrect leading UTF-8 octet"
        else if octet &&& 0xC0 != 0x80 then
          fail context startMark "found an incorrect trailing UTF-8 octet"
        octets := octets.push octet.toUInt8
        skip
        skip
        skip
        width := width - 1
        if width == 0 then break
    | _, _, _ => fail context startMark "did not find URI escaped octet"
  pure ((String.fromUTF8? (ByteArray.mk octets)).getD "\uFFFD")

/-- Reads a tag's URI; `head` is a handle read before that turned out to be the
start of the URI, and its first character `!` is left out. -/
def tagUri (flowIndicators directive : Bool) (head : String) (startMark : Mark) :
    Scan String := do
  let mut text := String.ofList (head.toList.drop 1)
  let mut length := head.length
  for _ in [0:(← bound)] do
    let c ← peek
    if !isUriChar flowIndicators c then break
    if c == '%' then
      text := text ++ (← uriEscapes directive startMark)
    else
      text := text.push (← take)
    length := length + 1
  if length == 0 then
    fail (some (if directive then "while parsing a %TAG directive" else "while parsing a tag"))
      startMark "did not find expected tag URI"
  pure text

/-- Reads the handle and expansion of a `%TAG` directive. -/
def tagDirective (startMark : Mark) : Scan (String × String) := do
  skipBlanks
  let handle ← tagHandle true startMark
  if !isBlank (← peek) then
    fail (some "while scanning a %TAG directive") startMark "did not find expected whitespace"
  skipBlanks
  let expansion ← tagUri true true "" startMark
  if !isBlankOrEnd (← peek) then
    fail (some "while scanning a %TAG directive") startMark
      "did not find expected whitespace or line break"
  pure (handle, expansion)

/-- Reads a directive line. -/
def directive : Scan Token := do
  let startMark ← mark
  skip
  let name ← directiveName startMark
  let kind ←
    if name == "YAML" then do
      let (major, minor) ← versionDirective startMark
      pure (TokenKind.versionDirective major minor)
    else if name == "TAG" then do
      let (handle, expansion) ← tagDirective startMark
      pure (TokenKind.tagDirective handle expansion)
    else
      fail (some "while scanning a directive") startMark "found unknown directive name"
  let endMark ← mark
  skipBlanks
  if (← peek) == '#' then skipToBreak
  if !isBreakOrEnd (← peek) then
    fail (some "while scanning a directive") startMark "did not find expected comment or line break"
  if isBreak (← peek) then skipLine
  pure { kind, start := startMark, stop := endMark }

/-- Reads an anchor (`&name`) or an alias (`*name`). -/
def anchorOrAlias (isAlias : Bool) : Scan Token := do
  let startMark ← mark
  skip
  let mut name := ""
  for _ in [0:(← bound)] do
    if isWordChar (← peek) then name := name.push (← take) else break
  let endMark ← mark
  let c ← peek
  if name.isEmpty || !(isBlankOrEnd c || c == '?' || c == ':' || c == ',' || c == ']' ||
      c == '}' || c == '%' || c == '@' || c == '\x60') then
    fail (some (if isAlias then "while scanning an alias" else "while scanning an anchor"))
      startMark "did not find expected alphabetic or numeric character"
  pure { kind := if isAlias then .alias name else .anchor name, start := startMark,
         stop := endMark }

/-- Reads a tag: `!<uri>`, `!handle!suffix`, `!suffix`, or `!` alone, which
has the empty handle and the suffix `!`. -/
def tag : Scan Token := do
  let startMark ← mark
  let mut handle := ""
  let mut suffix := ""
  if (← peek 1) == '<' then
    skip
    skip
    suffix ← tagUri true false "" startMark
    if (← peek) != '>' then
      fail (some "while scanning a tag") startMark "did not find the expected '>'"
    skip
  else
    let read ← tagHandle false startMark
    if read.length > 1 && read.endsWith "!" then
      handle := read
      suffix ← tagUri false false "" startMark
    else
      suffix ← tagUri false false read startMark
      handle := "!"
      if suffix.isEmpty then
        handle := ""
        suffix := "!"
  let c ← peek
  if !isBlankOrEnd c then
    if (← get).flowLevel == 0 || c != ',' then
      fail (some "while scanning a tag") startMark "did not find expected whitespace or line break"
  let endMark ← mark
  pure { kind := .tag handle suffix, start := startMark, stop := endMark }

/-- A token of one indicator character. -/
def indicator (kind : TokenKind) : Scan Unit := do
  let startMark ← mark
  skip
  enqueue { kind, start := startMark, stop := (← mark) }

/-- Sets whether a simple key may start at the next token. -/
def allowSimpleKey (allowed : Bool) : Scan Unit :=
  modify fun s => { s with simpleKeyAllowed := allowed }

/-- Starts the stream. -/
def fetchStreamStart : Scan Unit := do
  modify fun s =>
    { s with indent := -1, simpleKeys := [{}], simpleKeyAllowed := true,
             streamStartProduced := true }
  let m ← mark
  enqueue { kind := .streamStart, start := m, stop := m }

/-- Ends the stream, closing every open block collection. -/
def fetchStreamEnd : Scan Unit := do
  modify fun s =>
    if s.mark.column != 0 then
      { s with mark := { s.mark with column := 0, line := s.mark.line + 1 } }
    else s
  unrollIndent (-1)
  removeSimpleKey
  allowSimpleKey false
  let m ← mark
  enqueue { kind := .streamEnd, start := m, stop := m }

/-- Reads a directive, closing every open block collection first. -/
def fetchDirective : Scan Unit := do
  unrollIndent (-1)
  removeSimpleKey
  allowSimpleKey false
  enqueue (← directive)

/-- Reads `---` or `...`. -/
def fetchDocumentIndicator (kind : TokenKind) : Scan Unit := do
  unrollIndent (-1)
  removeSimpleKey
  allowSimpleKey false
  let startMark ← mark
  skip
  skip
  skip
  enqueue { kind, start := startMark, stop := (← mark) }

/-- Reads `[` or `{`. -/
def fetchFlowCollectionStart (kind : TokenKind) : Scan Unit := do
  saveSimpleKey
  increaseFlowLevel
  allowSimpleKey true
  indicator kind

/-- Reads `]` or `}`. -/
def fetchFlowCollectionEnd (kind : TokenKind) : Scan Unit := do
  removeSimpleKey
  decreaseFlowLevel
  allowSimpleKey false
  indicator kind

/-- Reads `,`. -/
def fetchFlowEntry : Scan Unit := do
  removeSimpleKey
  allowSimpleKey true
  indicator .flowEntry

/-- Reads a block sequence entry `- `. -/
def fetchBlockEntry : Scan Unit := do
  let s ← get
  if s.flowLevel == 0 then
    if !s.simpleKeyAllowed then
      fail none s.mark "block sequence entries are not allowed in this context"
    rollIndent s.mark.column none .blockSequenceStart s.mark
  removeSimpleKey
  allowSimpleKey true
  indicator .blockEntry

/-- Reads a complex key indicator `? `. -/
def fetchKey : Scan Unit := do
  let s ← get
  if s.flowLevel == 0 then
    if !s.simpleKeyAllowed then
      fail none s.mark "mapping keys are not allowed in this context"
    rollIndent s.mark.column none .blockMappingStart s.mark
  removeSimpleKey
  allowSimpleKey ((← get).flowLevel == 0)
  indicator .key

/-- Reads a value indicator `: `. When a simple key is pending, the key token
goes in front of it, and in block context the mapping starts there. -/
def fetchValue : Scan Unit := do
  let k ← topKey
  if k.possible then
    let s ← get
    insertToken (k.tokenNumber - s.tokensParsed) { kind := .key, start := k.mark, stop := k.mark }
    rollIndent k.mark.column (some k.tokenNumber) .blockMappingStart k.mark
    setTopKey { k with possible := false }
    allowSimpleKey false
  else
    let s ← get
    if s.flowLevel == 0 then
      if !s.simpleKeyAllowed then
        fail none s.mark "mapping values are not allowed in this context"
      rollIndent s.mark.column none .blockMappingStart s.mark
    allowSimpleKey ((← get).flowLevel == 0)
  indicator .value

/-- Reads an anchor or an alias. -/
def fetchAnchorOrAlias (isAlias : Bool) : Scan Unit := do
  saveSimpleKey
  allowSimpleKey false
  enqueue (← anchorOrAlias isAlias)

/-- Reads a tag. -/
def fetchTag : Scan Unit := do
  saveSimpleKey
  allowSimpleKey false
  enqueue (← tag)

/-- Reads a block scalar. -/
def fetchBlockScalar (literal : Bool) : Scan Unit := do
  removeSimpleKey
  allowSimpleKey true
  enqueue (← blockScalar literal)

/-- Reads a quoted scalar. -/
def fetchQuotedScalar (single : Bool) : Scan Unit := do
  saveSimpleKey
  allowSimpleKey false
  enqueue (← quotedScalar single)

/-- Reads a plain scalar. -/
def fetchPlainScalar : Scan Unit := do
  saveSimpleKey
  allowSimpleKey false
  enqueue (← plainScalar)

/-- Skips blanks, comments and line breaks up to the next token. Tabs count
as blanks in flow context and where a simple key cannot start; a line break in
block context allows a simple key again. -/
def toNextToken : Scan Unit := do
  let rounds ← bound
  for _ in [0:rounds] do
    if (← mark).column == 0 && (← peek) == '\uFEFF' then skip
    for _ in [0:rounds] do
      let c ← peek
      let s ← get
      if c == ' ' || ((s.flowLevel > 0 || !s.simpleKeyAllowed) && c == '\t') then skip else break
    if (← peek) == '#' then skipToBreak
    if isBreak (← peek) then
      skipLine
      if (← get).flowLevel == 0 then allowSimpleKey true
    else break

/-- Whether a plain scalar may start with `c` followed by `d`. -/
def startsPlain (flow : Bool) (c d : Char) : Bool :=
  !(isBlankOrEnd c || "-?:,[]\x7b\x7d#&*!|>'\"%@".contains c || c == '\x60') ||
    (c == '-' && !isBlank d) ||
    (!flow && (c == '?' || c == ':') && !isBlankOrEnd d)

/-- Reads the next token, with the block ends and keys it implies. -/
def fetchNextToken : Scan Unit := do
  if !(← get).streamStartProduced then
    fetchStreamStart
    return
  toNextToken
  staleSimpleKeys
  unrollIndent (← mark).column
  let c ← peek
  let d ← peek 1
  let flow := (← get).flowLevel > 0
  let column := (← mark).column
  if isEnd c then fetchStreamEnd
  else if column == 0 && c == '%' then fetchDirective
  else if column == 0 && c == '-' && d == '-' && (← peek 2) == '-' && isBlankOrEnd (← peek 3) then
    fetchDocumentIndicator .documentStart
  else if column == 0 && c == '.' && d == '.' && (← peek 2) == '.' && isBlankOrEnd (← peek 3) then
    fetchDocumentIndicator .documentEnd
  else if c == '[' then fetchFlowCollectionStart .flowSequenceStart
  else if c == '{' then fetchFlowCollectionStart .flowMappingStart
  else if c == ']' then fetchFlowCollectionEnd .flowSequenceEnd
  else if c == '}' then fetchFlowCollectionEnd .flowMappingEnd
  else if c == ',' then fetchFlowEntry
  else if c == '-' && isBlankOrEnd d then fetchBlockEntry
  else if c == '?' && (flow || isBlankOrEnd d) then fetchKey
  else if c == ':' && (flow || isBlankOrEnd d) then fetchValue
  else if c == '*' then fetchAnchorOrAlias true
  else if c == '&' then fetchAnchorOrAlias false
  else if c == '!' then fetchTag
  else if c == '|' && !flow then fetchBlockScalar true
  else if c == '>' && !flow then fetchBlockScalar false
  else if c == '\'' then fetchQuotedScalar true
  else if c == '"' then fetchQuotedScalar false
  else if startsPlain flow c d then fetchPlainScalar
  else
    fail (some "while scanning for the next token") (← mark)
      "found character that cannot start any token"

/-- Reads tokens until the one in front is settled: the queue is not empty and
no pending simple key starts at its front. -/
def fetchMoreTokens : Scan Unit := do
  let rounds ← bound
  for _ in [0:rounds + 2] do
    let s ← get
    let needed ←
      if s.queue.isEmpty then pure true
      else do
        staleSimpleKeys
        let s ← get
        pure (s.simpleKeys.any fun k => k.possible && k.tokenNumber == s.tokensParsed)
    if !needed then break
    fetchNextToken
  modify fun s => { s with tokenAvailable := true }

/-- The token in front. -/
def peekToken : Scan Token := do
  if !(← get).tokenAvailable then fetchMoreTokens
  let s ← get
  pure (s.queue.headD { kind := .streamEnd, start := s.mark, stop := s.mark })

/-- Moves past the token in front. -/
def skipToken : Scan Unit :=
  modify fun s =>
    { s with
      tokenAvailable := false
      tokensParsed := s.tokensParsed + 1
      streamEndProduced :=
        match s.queue with
        | t :: _ => t.kind == .streamEnd
        | [] => s.streamEndProduced
      queue := s.queue.drop 1 }

end Scan

end CiManifest.Yaml
