import CiManifest.Yaml.Token.Cursor

/-!
# Scalar tokens

Three ways of writing a scalar, and how their text is read.

* Plain scalars end before `: `, before ` #`, at a document marker, and in flow
  context before `,[]{}`. A line break folds into a space, and further breaks
  are kept as line feeds; in block context the scalar ends at a line indented
  no deeper than its parent.
* Quoted scalars fold line breaks the same way. Single quotes escape a quote by
  doubling it; double quotes take backslash escapes, including `\x`, `\u` and
  `\U` with two, four or eight hex digits, and a backslash before a line break
  joins the lines.
* Block scalars (`|` literal, `>` folded) take their indentation from the
  indicator or from the first non-empty line, and their chomping indicator
  (`-` strip, `+` keep, none clip) decides what happens to final line breaks.

Every loop here takes at least one character per round, so the number of
characters left bounds it.
-/

namespace CiManifest.Yaml

namespace Scan

/-- A bound on the rounds of any loop over the rest of the text. -/
def bound : Scan Nat := do
  let s ← get
  pure (s.input.size + 2 - min s.mark.index s.input.size)

/-- Whether the three characters at hand are `---` or `...` at the start of a
line, followed by a blank or the end. -/
def atDocumentMarker : Scan Bool := do
  let m ← mark
  let c0 ← peek 0
  let c1 ← peek 1
  let c2 ← peek 2
  let c3 ← peek 3
  pure (m.column == 0 &&
    ((c0 == '-' && c1 == '-' && c2 == '-') || (c0 == '.' && c1 == '.' && c2 == '.')) &&
    isBlankOrEnd c3)

/-- Folds one line break (`leadingBreak`) and the breaks after it: a single line
feed becomes a space; otherwise the breaks after the first are kept. -/
def foldBreaks (leadingBreak trailingBreaks : String) : String :=
  if leadingBreak.startsWith "\n" then
    if trailingBreaks.isEmpty then " " else trailingBreaks
  else leadingBreak ++ trailingBreaks

/-- Scans a plain scalar. -/
def plainScalar : Scan Token := do
  let startMark ← mark
  let mut endMark := startMark
  let mut text := ""
  let mut leadingBreak := ""
  let mut trailingBreaks := ""
  let mut whitespaces := ""
  let mut leadingBlanks := false
  let indent := (← get).indent + 1
  let rounds ← bound
  for _ in [0:rounds] do
    if ← atDocumentMarker then break
    if (← peek) == '#' then break
    for _ in [0:rounds] do
      let c ← peek
      if isBlankOrEnd c then break
      let d ← peek 1
      let flow := (← get).flowLevel > 0
      if flow && c == ':' &&
          (d == ',' || d == '?' || d == '[' || d == ']' || d == '{' || d == '}') then
        fail (some "while scanning a plain scalar") startMark "found unexpected ':'"
      if (c == ':' && isBlankOrEnd d) ||
          (flow && (c == ',' || c == '[' || c == ']' || c == '{' || c == '}')) then
        break
      if leadingBlanks then
        text := text ++ foldBreaks leadingBreak trailingBreaks
        leadingBreak := ""
        trailingBreaks := ""
        leadingBlanks := false
      else if !whitespaces.isEmpty then
        text := text ++ whitespaces
        whitespaces := ""
      text := text.push (← take)
      endMark ← mark
    let c ← peek
    if !(isBlank c || isBreak c) then break
    for _ in [0:rounds] do
      let c ← peek
      if !(isBlank c || isBreak c) then break
      if isBlank c then
        if leadingBlanks && ((← mark).column : Int) < indent && c == '\t' then
          fail (some "while scanning a plain scalar") startMark
            "found a tab character that violates indentation"
        if !leadingBlanks then whitespaces := whitespaces.push (← take) else skip
      else if !leadingBlanks then
        whitespaces := ""
        leadingBreak ← takeLine
        leadingBlanks := true
      else
        trailingBreaks := trailingBreaks ++ (← takeLine)
    if (← get).flowLevel == 0 && ((← mark).column : Int) < indent then break
  if leadingBlanks then
    modify fun s => { s with simpleKeyAllowed := true }
  pure { kind := .scalar text .plain, start := startMark, stop := endMark }

/-- The text of a one-character escape after a backslash in a double-quoted
scalar, or the number of hex digits that follow `x`, `u` or `U`. -/
def escape (c : Char) : Option (Sum String Nat) :=
  match c with
  | '0' => some (.inl "\x00")
  | 'a' => some (.inl "\x07")
  | 'b' => some (.inl "\x08")
  | 't' => some (.inl "\t")
  | '\t' => some (.inl "\t")
  | 'n' => some (.inl "\n")
  | 'v' => some (.inl "\x0b")
  | 'f' => some (.inl "\x0c")
  | 'r' => some (.inl "\r")
  | 'e' => some (.inl "\x1b")
  | ' ' => some (.inl " ")
  | '"' => some (.inl "\"")
  | '/' => some (.inl "/")
  | '\'' => some (.inl "'")
  | '\\' => some (.inl "\\")
  | 'N' => some (.inl "\x85")
  | '_' => some (.inl "\xa0")
  | 'L' => some (.inl "\u2028")
  | 'P' => some (.inl "\u2029")
  | 'x' => some (.inr 2)
  | 'u' => some (.inr 4)
  | 'U' => some (.inr 8)
  | _ => none

/-- Scans a single- or double-quoted scalar. -/
def quotedScalar (single : Bool) : Scan Token := do
  let startMark ← mark
  skip
  let quote := if single then '\'' else '"'
  let mut text := ""
  let mut leadingBreak := ""
  let mut trailingBreaks := ""
  let mut whitespaces := ""
  let mut leadingBlanks := false
  let rounds ← bound
  for _ in [0:rounds] do
    if ← atDocumentMarker then
      fail (some "while scanning a quoted scalar") startMark "found unexpected document indicator"
    if isEnd (← peek) then
      fail (some "while scanning a quoted scalar") startMark "found unexpected end of stream"
    leadingBlanks := false
    for _ in [0:rounds] do
      let c ← peek
      if isBlankOrEnd c then break
      let d ← peek 1
      if single && c == '\'' && d == '\'' then
        text := text.push '\''
        skip
        skip
      else if c == quote then
        break
      else if !single && c == '\\' && isBreak d then
        skip
        skipLine
        leadingBlanks := true
        break
      else if !single && c == '\\' then
        match escape d with
        | none =>
            fail (some "while parsing a quoted scalar") startMark "found unknown escape character"
        | some (.inl s) =>
            skip
            skip
            text := text ++ s
        | some (.inr digits) =>
            skip
            skip
            let mut code := 0
            for k in [0:digits] do
              match hexDigitValue (← peek k) with
              | some v => code := code * 16 + v
              | none =>
                  fail (some "while parsing a quoted scalar") startMark
                    "did not find expected hexadecimal number"
            if (0xD800 ≤ code && code ≤ 0xDFFF) || code > 0x10FFFF then
              fail (some "while parsing a quoted scalar") startMark
                "found invalid Unicode character escape code"
            text := text.push (Char.ofNat code)
            for _ in [0:digits] do
              skip
      else
        text := text.push (← take)
    if (← peek) == quote then break
    for _ in [0:rounds] do
      let c ← peek
      if !(isBlank c || isBreak c) then break
      if isBlank c then
        if !leadingBlanks then whitespaces := whitespaces.push (← take) else skip
      else if !leadingBlanks then
        whitespaces := ""
        leadingBreak ← takeLine
        leadingBlanks := true
      else
        trailingBreaks := trailingBreaks ++ (← takeLine)
    if leadingBlanks then
      text := text ++ foldBreaks leadingBreak trailingBreaks
      leadingBreak := ""
      trailingBreaks := ""
    else
      text := text ++ whitespaces
      whitespaces := ""
  skip
  let endMark ← mark
  pure {
    kind := .scalar text (if single then .singleQuoted else .doubleQuoted)
    start := startMark
    stop := endMark }

/-- Eats the indentation and empty lines before a block scalar's next line.
With `indent` zero, the indentation is fixed here: the deepest empty line, at
least one more than the parent's, and at least one. Returns the indentation,
the line breaks eaten and the mark after the last one. -/
def blockScalarBreaks (indent : Nat) (startMark : Mark) : Scan (Nat × String × Mark) := do
  let mut maxIndent := 0
  let mut endMark ← mark
  let mut breaks := ""
  let rounds ← bound
  for _ in [0:rounds] do
    for _ in [0:rounds] do
      if (indent == 0 || (← mark).column < indent) && (← peek) == ' ' then skip else break
    if (← mark).column > maxIndent then maxIndent := (← mark).column
    if (indent == 0 || (← mark).column < indent) && (← peek) == '\t' then
      fail (some "while scanning a block scalar") startMark
        "found a tab character where an indentation space is expected"
    if !isBreak (← peek) then break
    breaks := breaks ++ (← takeLine)
    endMark ← mark
  if indent != 0 then return (indent, breaks, endMark)
  let parent := (← get).indent + 1
  let fixed := max (max (maxIndent : Int) parent) 1
  pure (fixed.toNat, breaks, endMark)

/-- Scans a literal (`|`) or folded (`>`) block scalar. -/
def blockScalar (literal : Bool) : Scan Token := do
  let startMark ← mark
  skip
  let mut chomping : Int := 0
  let mut increment := 0
  let c ← peek
  if c == '+' || c == '-' then
    chomping := if c == '+' then 1 else -1
    skip
    let d ← peek
    if isDigitChar d then
      if d == '0' then
        fail (some "while scanning a block scalar") startMark
          "found an indentation indicator equal to 0"
      increment := d.toNat - 48
      skip
  else if isDigitChar c then
    if c == '0' then
      fail (some "while scanning a block scalar") startMark
        "found an indentation indicator equal to 0"
    increment := c.toNat - 48
    skip
    let d ← peek
    if d == '+' || d == '-' then
      chomping := if d == '+' then 1 else -1
      skip
  let rounds ← bound
  for _ in [0:rounds] do
    if isBlank (← peek) then skip else break
  if (← peek) == '#' then
    for _ in [0:rounds] do
      if isBreakOrEnd (← peek) then break
      skip
  if !isBreakOrEnd (← peek) then
    fail (some "while scanning a block scalar") startMark
      "did not find expected comment or line break"
  if isBreak (← peek) then skipLine
  let mut indent : Nat := 0
  if increment > 0 then
    let parent := (← get).indent
    indent := if parent ≥ 0 then (parent + increment).toNat else increment
  let (firstIndent, firstBreaks, firstEnd) ← blockScalarBreaks indent startMark
  indent := firstIndent
  let mut trailingBreaks := firstBreaks
  let mut endMark := firstEnd
  let mut text := ""
  let mut leadingBreak := ""
  let mut leadingBlank := false
  for _ in [0:rounds] do
    if !((← mark).column == indent && !isEnd (← peek)) then break
    let trailingBlank := isBlank (← peek)
    if !literal && leadingBreak.startsWith "\n" && !leadingBlank && !trailingBlank then
      if trailingBreaks.isEmpty then text := text.push ' '
      leadingBreak := ""
    else
      text := text ++ leadingBreak
      leadingBreak := ""
    text := text ++ trailingBreaks
    trailingBreaks := ""
    leadingBlank := isBlank (← peek)
    for _ in [0:rounds] do
      if isBreakOrEnd (← peek) then break
      text := text.push (← take)
    leadingBreak ← takeLine
    let (nextIndent, breaks, nextEnd) ← blockScalarBreaks indent startMark
    indent := nextIndent
    trailingBreaks := breaks
    endMark := nextEnd
  if chomping != -1 then text := text ++ leadingBreak
  if chomping == 1 then text := text ++ trailingBreaks
  pure {
    kind := .scalar text (if literal then .literal else .folded)
    start := startMark
    stop := endMark }

end Scan

end CiManifest.Yaml
