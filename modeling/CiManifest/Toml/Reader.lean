import CiManifest.Toml.Value
import CiManifest.Decimal.Nearest

/-!
# Reading TOML

Reads a TOML document into its root table: key/value pairs, `[table]` and
`[[array of tables]]` headers, dotted keys, the four kinds of strings (with the
`\e` and `\xHH` escapes besides those of TOML 1.0), integers in four bases,
floats, booleans, date-times, arrays and inline tables.

Tables follow TOML's rules: a header defines a table once (a table only
implied before may be defined later), dotted keys extend only tables made by
dotted keys, and no key is given twice. Breaking a rule is a `duplicate key`
error at the key. The first error stops reading.
-/

namespace CiManifest.Toml

/-- How a table came to exist, which decides how it may be extended. -/
inductive TableKind where
  /-- Named by a header as the parent of another table. -/
  | implied
  /-- Defined by its own header. -/
  | defined
  /-- Made by a dotted key. -/
  | dotted
  deriving Repr, BEq, Inhabited

/-- A document under construction. -/
inductive Tree where
  | leaf (value : Value)
  | table (kind : TableKind) (entries : List (String × Tree)) (span : Span)
  | tables (items : List Tree) (span : Span)
  deriving Inhabited

mutual

/-- The value a tree stands for. -/
def Tree.value : Tree → Value
  | .leaf v => v
  | .table _ entries span => .table (Tree.entryValues entries) span
  | .tables items span => .array (Tree.itemValues items) span

/-- The values of a table's entries. -/
def Tree.entryValues : List (String × Tree) → List (String × Value)
  | [] => []
  | (k, t) :: rest => (k, t.value) :: Tree.entryValues rest

/-- The values of an array of tables. -/
def Tree.itemValues : List Tree → List Value
  | [] => []
  | t :: rest => t.value :: Tree.itemValues rest

end

/-- The error for a key given twice or a table defined twice. -/
def duplicateKey (span : Span) : Error :=
  { message := "duplicate key", span }

/-- Replaces the entry of `key`, or adds it at the end. -/
def setEntry (key : String) (t : Tree) : List (String × Tree) → List (String × Tree)
  | [] => [(key, t)]
  | (k, u) :: rest => if k == key then (k, t) :: rest else (k, u) :: setEntry key t rest

/-- Applies `f` to the last item of an array of tables. -/
def updateLast (f : Tree → Except Error Tree) : List Tree → Except Error (List Tree)
  | [] => .ok []
  | [t] => do pure [← f t]
  | t :: rest => do pure (t :: (← updateLast f rest))

/-- Applies `f` to the table at `path` below `t`, going into the last table of
arrays of tables on the way; `fuel` bounds the levels walked. -/
def Tree.atPath (f : Tree → Except Error Tree) : Nat → List String → Tree → Except Error Tree
  | 0, _, t => .ok t
  | fuel + 1, path, .tables items span => do
      pure (.tables (← updateLast (Tree.atPath f fuel path) items) span)
  | _ + 1, [], t => f t
  | fuel + 1, k :: rest, .table kind entries span =>
      match entries.lookup k with
      | some child => do
          let child ← Tree.atPath f fuel rest child
          pure (.table kind (setEntry k child entries) span)
      | none => .ok (.table kind entries span)
  | _ + 1, _, t => .ok t

/-- Defines the table (or appends to the array of tables, when `array`) named
by a header, below `t`; `fuel` bounds the levels walked. -/
def Tree.header (array : Bool) : Nat → List (String × Span) → Tree → Except Error Tree
  | 0, _, t => .ok t
  | _ + 1, [], t => .ok t
  | _ + 1, [(k, span)], .table kind entries tspan =>
      match entries.lookup k, array with
      | none, false => .ok (.table kind (setEntry k (.table .defined [] span) entries) tspan)
      | none, true =>
          .ok (.table kind (setEntry k (.tables [.table .defined [] span] span) entries) tspan)
      | some (.table .implied es _), false =>
          .ok (.table kind (setEntry k (.table .defined es span) entries) tspan)
      | some (.tables items s), true =>
          .ok (.table kind (setEntry k (.tables (items ++ [.table .defined [] span]) s) entries)
            tspan)
      | some _, _ => .error (duplicateKey span)
  | fuel + 1, (k, span) :: rest, .table kind entries tspan =>
      match entries.lookup k with
      | none => do
          let child ← Tree.header array fuel rest (.table .implied [] span)
          pure (.table kind (setEntry k child entries) tspan)
      | some (.leaf _) => .error (duplicateKey span)
      | some child => do
          let child ← Tree.header array fuel rest child
          pure (.table kind (setEntry k child entries) tspan)
  | fuel + 1, keys, .tables items span => do
      pure (.tables (← updateLast (Tree.header array fuel keys) items) span)
  | _ + 1, (_, span) :: _, .leaf _ => .error (duplicateKey span)

/-- Enough levels to walk a path of `n` keys: each key passes at most one array
of tables. -/
def pathFuel (n : Nat) : Nat :=
  2 * n + 2

/-- Adds a key/value pair below `t`; dotted keys make or extend tables made
by dotted keys. -/
def Tree.assign (value : Value) : List (String × Span) → Tree → Except Error Tree
  | [], t => .ok t
  | [(k, span)], .table kind entries tspan =>
      match entries.lookup k with
      | none => .ok (.table kind (setEntry k (.leaf value) entries) tspan)
      | some _ => .error (duplicateKey span)
  | (k, span) :: rest, .table kind entries tspan =>
      match entries.lookup k with
      | none => do
          let child ← Tree.assign value rest (.table .dotted [] span)
          pure (.table kind (setEntry k child entries) tspan)
      | some (.table .dotted es s) => do
          let child ← Tree.assign value rest (.table .dotted es s)
          pure (.table kind (setEntry k child entries) tspan)
      | some _ => .error (duplicateKey span)
  | (_, span) :: _, _ => .error (duplicateKey span)

/-- The reader's state: the position, the document so far and the path of
the table that key/value pairs go to. -/
structure Cursor where
  pos : Nat := 0
  root : Tree := .table .defined [] ⟨0, 0⟩
  current : List String := []

/-- Reading steps over the characters of a document. -/
abbrev Read := ReaderT (Array Char) (StateT Cursor (Except Error))

namespace Read

/-- The current position. -/
def here : Read Nat := do
  pure (← get).pos

/-- The character `k` places ahead, `'\x00'` past the end. -/
def peek (k : Nat := 0) : Read Char := do
  pure ((← read).getD ((← get).pos + k) '\x00')

/-- Whether the text is over. -/
def atEnd : Read Bool := do
  pure ((← get).pos ≥ (← read).size)

/-- Moves ahead. -/
def advance (n : Nat := 1) : Read Unit :=
  modify fun c => { c with pos := c.pos + n }

/-- A bound on the rounds of a loop over the rest of the text. -/
def bound : Read Nat := do
  pure ((← read).size + 1 - (← get).pos)

/-- Stops with an error. -/
def fail {α : Type} (message : String) (span : Span) : Read α :=
  throw { message, span }

/-- Skips spaces and tabs. -/
def skipBlanks : Read Unit := do
  for _ in [0:(← bound)] do
    let c ← peek
    if c == ' ' || c == '\t' then advance else break

/-- Whether a character is a control character TOML refuses in text. -/
def isControl (c : Char) : Bool :=
  (c.toNat < 0x20 && c != '\t') || c.toNat == 0x7F

/-- Skips a comment up to the end of its line. -/
def skipComment : Read Unit := do
  if (← peek) != '#' then return
  advance
  for _ in [0:(← bound)] do
    if ← atEnd then break
    let c ← peek
    if c == '\n' || (c == '\r' && (← peek 1) == '\n') then break
    if isControl c then
      fail "invalid comment character" (Span.at (← here))
    advance

/-- Takes a line break, if one is here. -/
def newline? : Read Bool := do
  let c ← peek
  if c == '\n' then
    advance
    return true
  if c == '\r' && (← peek 1) == '\n' then
    advance 2
    return true
  pure false

/-- Skips blanks, comments and line breaks. -/
def skipSpace : Read Unit := do
  for _ in [0:(← bound)] do
    skipBlanks
    skipComment
    if !(← newline?) then break

/-- A character of a bare key. -/
def isBareChar (c : Char) : Bool :=
  (c.isAlphanum && c.toNat < 128) || c == '-' || c == '_'

/-- The value of a hex digit. -/
def hexValue (c : Char) : Option Nat :=
  if '0' ≤ c && c ≤ '9' then some (c.toNat - 48)
  else if 'a' ≤ c && c ≤ 'f' then some (c.toNat - 87)
  else if 'A' ≤ c && c ≤ 'F' then some (c.toNat - 55)
  else none

/-- Reads the escape after a backslash in a basic string. -/
def escape (start : Nat) : Read Char := do
  let c ← peek
  let simple : Option Char := match c with
    | 'b' => some '\x08'
    | 't' => some '\t'
    | 'n' => some '\n'
    | 'f' => some '\x0c'
    | 'r' => some '\r'
    | 'e' => some '\x1b'
    | '"' => some '"'
    | '\\' => some '\\'
    | _ => none
  if let some e := simple then
    advance
    return e
  let digits := match c with
    | 'x' => 2
    | 'u' => 4
    | 'U' => 8
    | _ => 0
  if digits == 0 then
    fail "invalid escape sequence, expected b, e, f, n, r, t, x, u, U, \\, \""
      ⟨start, (← here) + 1⟩
  advance
  let mut code := 0
  for k in [0:digits] do
    match hexValue (← peek k) with
    | some v => code := code * 16 + v
    | none => fail "invalid hexadecimal escape code" ⟨start, (← here) + k⟩
  advance digits
  if (0xD800 ≤ code && code ≤ 0xDFFF) || code > 0x10FFFF then
    fail "invalid unicode escape code" ⟨start, ← here⟩
  pure (Char.ofNat code)

/-- Reads a one-line basic string after its opening quote. -/
def basicString (start : Nat) : Read String := do
  let mut text := ""
  for _ in [0:(← bound)] do
    let c ← peek
    if (← atEnd) || c == '\n' || c == '\r' then
      fail "invalid basic string, expected `\"`" (Span.at (← here))
    if c == '"' then
      advance
      return text
    if c == '\\' then
      let escapeStart := (← here)
      advance
      text := text.push (← escape escapeStart)
    else if isControl c then
      fail "invalid basic string" (Span.at (← here))
    else
      text := text.push c
      advance
  fail "invalid basic string, expected `\"`" (Span.at start)

/-- Reads a one-line literal string after its opening quote. -/
def literalString (start : Nat) : Read String := do
  let mut text := ""
  for _ in [0:(← bound)] do
    let c ← peek
    if (← atEnd) || c == '\n' || c == '\r' then
      fail "invalid literal string, expected `'`" (Span.at (← here))
    if c == '\'' then
      advance
      return text
    if isControl c then
      fail "invalid literal string" (Span.at (← here))
    text := text.push c
    advance
  fail "invalid literal string, expected `'`" (Span.at start)

/-- Reads a multi-line string after its three opening quotes. -/
def multilineString (quote : Char) (start : Nat) : Read String := do
  let _ ← newline?
  let mut text := ""
  for _ in [0:(← bound)] do
    if ← atEnd then
      fail (if quote == '"' then "invalid multiline basic string, expected `\"\"\"`"
        else "invalid multiline literal string, expected `'''`") (Span.at (← here))
    let c ← peek
    if c == quote && (← peek 1) == quote && (← peek 2) == quote then
      let mut extra := 0
      for k in [3:5] do
        if (← peek k) == quote then extra := k - 2 else break
      for _ in [0:extra] do
        text := text.push quote
      advance (3 + extra)
      return text
    if c == '\\' && quote == '"' then
      let escapeStart := (← here)
      let d ← peek 1
      if d == ' ' || d == '\t' || d == '\n' || d == '\r' then
        advance
        skipBlanks
        if !(← newline?) then
          fail "invalid escape sequence" ⟨escapeStart, (← here)⟩
        for _ in [0:(← bound)] do
          skipBlanks
          if !(← newline?) then break
      else
        advance
        text := text.push (← escape escapeStart)
    else if c == '\r' && (← peek 1) == '\n' then
      text := text.push '\r'
      text := text.push '\n'
      advance 2
    else if c == '\n' then
      text := text.push '\n'
      advance
    else if isControl c then
      fail "invalid multiline string" (Span.at (← here))
    else
      text := text.push c
      advance
  fail "invalid multiline string" (Span.at start)

/-- Reads one part of a key: bare, basic or literal. -/
def simpleKey : Read (String × Span) := do
  let start ← here
  let c ← peek
  if c == '"' then
    advance
    let name ← basicString start
    return (name, ⟨start, ← here⟩)
  if c == '\'' then
    advance
    let name ← literalString start
    return (name, ⟨start, ← here⟩)
  let mut name := ""
  for _ in [0:(← bound)] do
    let c ← peek
    if isBareChar c then
      name := name.push c
      advance
    else break
  if name.isEmpty then
    fail "unquoted keys cannot be empty, expected letters, numbers, `-`, `_`" (Span.at start)
  pure (name, ⟨start, ← here⟩)

/-- Reads a dotted key; the position after its last part comes with it. -/
def dottedKey : Read (List (String × Span) × Nat) := do
  let first ← simpleKey
  let mut keys := #[first]
  let mut last := first.2.stop
  for _ in [0:(← bound)] do
    let save ← get
    skipBlanks
    if (← peek) != '.' then
      set save
      break
    advance
    skipBlanks
    let k ← simpleKey
    keys := keys.push k
    last := k.2.stop
  pure (keys.toList, last)

/-- Whether a character ends a bare value. -/
def endsAtom (c : Char) : Bool :=
  c == ' ' || c == '\t' || c == '\n' || c == '\r' || c == ',' || c == ']' || c == '[' ||
    c == '}' || c == '{' || c == '#' || c == '=' || c == '\x00'

/-- Whether `s` is `n` ASCII digits. -/
def digitsOf (n : Nat) (s : List Char) : Bool :=
  s.length == n && s.all Char.isDigit

/-- Whether an atom has the shape of a date `YYYY-MM-DD`. -/
def isDateShape (s : List Char) : Bool :=
  s.length == 10 && digitsOf 4 (s.take 4) && s[4]? == some '-' &&
    digitsOf 2 ((s.drop 5).take 2) && s[7]? == some '-' && digitsOf 2 (s.drop 8)

/-- Removes underscores that stand between digits; nothing when one does not. -/
def withoutSeparators (cs : List Char) (isDigitLike : Char → Bool) : Option (List Char) :=
  let rec go : List Char → Option Char → Option (List Char)
    | [], _ => some []
    | '_' :: rest, some prev =>
        if isDigitLike prev then
          match rest with
          | d :: _ => if isDigitLike d then go rest (some '_') else none
          | [] => none
        else none
    | '_' :: _, none => none
    | c :: rest, _ => (go rest (some c)).map (c :: ·)
  go cs none

/-- Reads a decimal integer text (sign and digits, no separators left). -/
def decimalValue (cs : List Char) : Option Int :=
  let (negative, digits) := match cs with
    | '+' :: rest => (false, rest)
    | '-' :: rest => (true, rest)
    | _ => (false, cs)
  if digits.isEmpty || !digits.all Char.isDigit then none
  else if digits.length > 1 && digits.head? == some '0' then none
  else
    let v : Nat := digits.foldl (fun acc c => acc * 10 + (c.toNat - 48)) 0
    some (if negative then -(v : Int) else v)

/-- Reads digits in a base, without sign. -/
def radixValue (radix : Nat) (cs : List Char) : Option Nat :=
  if cs.isEmpty then none
  else cs.foldlM (fun acc c =>
    match hexValue c with
    | some v => if v < radix then some (acc * radix + v) else none
    | none => none) 0

/-- Whether a value is a 64-bit signed integer. -/
def fitsSigned (v : Int) : Bool :=
  -Int.ofNat (Nat.pow 2 63) ≤ v && v < Int.ofNat (Nat.pow 2 63)

/-- Reads a float text: sign, digits without leading zeros, then a fraction,
an exponent or both. -/
def floatValue (cs : List Char) : Option Float :=
  let body := match cs with
    | '+' :: rest | '-' :: rest => rest
    | _ => cs
  let whole := body.takeWhile Char.isDigit
  let rest := body.drop whole.length
  let leadingZero := whole.length > 1 && whole.head? == some '0'
  let fractionOk := match rest with
    | '.' :: more => (more.takeWhile Char.isDigit).length > 0
    | _ => true
  let hasPoint := rest.head? == some '.'
  let afterFraction :=
    if hasPoint then (rest.drop 1).dropWhile Char.isDigit else rest
  let exponentOk := match afterFraction with
    | [] => true
    | e :: more =>
        (e == 'e' || e == 'E') &&
          (let digits := match more with
            | '+' :: d | '-' :: d => d
            | d => d
           !digits.isEmpty && digits.all Char.isDigit)
  if whole.isEmpty || leadingZero || !fractionOk || !exponentOk then none
  else if !hasPoint && afterFraction.isEmpty then none
  else Decimal.readFloat? (String.ofList cs)

/-- Reads a bare value: a boolean, a number or a date-time. -/
def atom (start : Nat) : Read Value := do
  let mut cs : Array Char := #[]
  for _ in [0:(← bound)] do
    let c ← peek
    if endsAtom c then
      if c == ' ' && isDateShape cs.toList && (← peek 1).isDigit then
        cs := cs.push c
        advance
      else break
    else
      cs := cs.push c
      advance
  let span : Span := ⟨start, ← here⟩
  let text := cs.toList
  if text.isEmpty then
    fail "missing value, expected value" span
  let first := text.head!
  if first == 't' || first == 'T' then
    if text == "true".toList then return .boolean true span
    fail "invalid boolean, expected `true`" span
  if first == 'f' || first == 'F' then
    if text == "false".toList then return .boolean false span
    fail "invalid boolean, expected `false`" span
  let unsigned := match text with
    | '+' :: rest | '-' :: rest => rest
    | _ => text
  if unsigned == "inf".toList || unsigned == "nan".toList then
    let negative := first == '-'
    let v : Float := if unsigned == "inf".toList then Float.ofBits 0x7FF0000000000000
      else Float.ofBits 0x7FF8000000000000
    return .float (if negative then -v else v) span
  let isDateTime := (text.length ≥ 10 && isDateShape (text.take 10)) ||
    (text.length ≥ 5 && digitsOf 2 (text.take 2) && text[2]? == some ':')
  if isDateTime then
    return .datetime (String.ofList text) span
  match text with
  | '0' :: b :: rest =>
      if b == 'x' || b == 'o' || b == 'b' then
        let radix := if b == 'x' then 16 else if b == 'o' then 8 else 2
        match withoutSeparators rest (fun c => (hexValue c).isSome) with
        | some digits =>
            match radixValue radix digits with
            | some v =>
                if v < Nat.pow 2 63 then return .integer v span
                fail "integer number overflowed" span
            | none => fail "invalid integer" span
        | none => fail "invalid integer" span
  | _ => pure ()
  match withoutSeparators text Char.isDigit with
  | none => fail "invalid number" span
  | some clean =>
      match decimalValue clean with
      | some v =>
          if fitsSigned v then return .integer v span
          fail "integer number overflowed" span
      | none =>
          match floatValue clean with
          | some f => return .float f span
          | none =>
              if first.isDigit || first == '+' || first == '-' || first == '.' then
                fail "invalid number" span
              fail "string values must be quoted, expected literal string" span

mutual

/-- Reads a value, with at most `fuel` levels of nesting. -/
def value (fuel : Nat) : Read Value := do
  match fuel with
  | 0 => fail "nesting too deep" (Span.at (← here))
  | fuel + 1 =>
      let start ← here
      let c ← peek
      if c == '"' || c == '\'' then
        if (← peek 1) == c && (← peek 2) == c then
          advance 3
          let text ← multilineString c start
          return .string text ⟨start, ← here⟩
        advance
        let text ← if c == '"' then basicString start else literalString start
        return .string text ⟨start, ← here⟩
      if c == '[' then return (← array fuel start)
      if c == '{' then return (← inlineTable fuel start)
      atom start

/-- Reads an array after nothing of it has been read. -/
def array (fuel : Nat) (start : Nat) : Read Value := do
  advance
  let mut items : Array Value := #[]
  let mut lastEnd := start + 1
  let mut needComma := false
  for _ in [0:(← bound)] do
    skipSpace
    let c ← peek
    if c == ']' then
      advance
      return .array items.toList ⟨start, ← here⟩
    if ← atEnd then
      fail "unclosed array, expected `]`" (Span.at lastEnd)
    if needComma then
      if c == ',' then
        advance
        lastEnd := (← here)
        needComma := false
      else
        fail "missing comma between array elements, expected `,`" (Span.at (← here))
    else
      if c == ',' then
        fail "extra comma in array, expected value" (Span.at (← here))
      let v ← value fuel
      items := items.push v
      lastEnd := (← here)
      needComma := true
  fail "unclosed array, expected `]`" (Span.at lastEnd)

/-- Reads an inline table after nothing of it has been read. -/
def inlineTable (fuel : Nat) (start : Nat) : Read Value := do
  advance
  let mut tree : Tree := .table .defined [] ⟨start, start + 1⟩
  let mut lastEnd := start + 1
  let mut needComma := false
  for _ in [0:(← bound)] do
    skipSpace
    let c ← peek
    if c == '}' then
      advance
      let entries := match tree with
        | .table _ es _ => Tree.entryValues es
        | _ => []
      return .table entries ⟨start, ← here⟩
    if ← atEnd then
      fail "unclosed inline table, expected `\x7d`" (Span.at lastEnd)
    if needComma then
      if c == ',' then
        advance
        lastEnd := (← here)
        needComma := false
      else
        fail "missing comma between inline table elements, expected `,`" (Span.at (← here))
    else
      let (keys, _) ← dottedKey
      skipBlanks
      if (← peek) != '=' then
        fail "key with no value, expected `=`" (Span.at (← here))
      advance
      skipBlanks
      let v ← value fuel
      match Tree.assign v keys tree with
      | .ok t => tree := t
      | .error e => throw e
      lastEnd := (← here)
      needComma := true
  fail "unclosed inline table, expected `\x7d`" (Span.at lastEnd)

end

/-- After an expression: blanks, a comment, then a line break or the end. -/
def endOfLine : Read Unit := do
  skipBlanks
  skipComment
  if ← atEnd then return
  if !(← newline?) then
    fail "unexpected content, expected newline" (Span.at (← here))

/-- Reads a `[table]` or `[[array of tables]]` header. -/
def header : Read Unit := do
  advance
  let array := (← peek) == '['
  if array then advance
  skipBlanks
  let (keys, last) ← dottedKey
  skipBlanks
  if array then
    if (← peek) != ']' || (← peek 1) != ']' then
      fail "unclosed array of tables, expected `]]`" (Span.at last)
    advance 2
  else
    if (← peek) != ']' then
      fail "unclosed table, expected `]`" (Span.at last)
    advance
  let c ← get
  match Tree.header array (pathFuel keys.length) keys c.root with
  | .ok root => set { c with root, current := keys.map Prod.fst }
  | .error e => throw e
  endOfLine

/-- Reads a key/value pair into the current table. -/
def keyValue (fuel : Nat) : Read Unit := do
  let (keys, _) ← dottedKey
  skipBlanks
  if (← peek) != '=' then
    fail "key with no value, expected `=`" (Span.at (← here))
  advance
  skipBlanks
  let v ← value fuel
  let c ← get
  match Tree.atPath (Tree.assign v keys) (pathFuel c.current.length) c.current c.root with
  | .ok root => set { c with root }
  | .error e => throw e
  endOfLine

/-- Reads the whole document. -/
def document : Read Unit := do
  let fuel := (← read).size + 1
  for _ in [0:(← bound)] do
    skipBlanks
    if ← atEnd then break
    let c ← peek
    if c == '#' then
      skipComment
      let _ ← newline?
    else if ← newline? then
      pure ()
    else if c == '[' then
      header
    else
      keyValue fuel

end Read

/-- Reads a TOML document into its root table. -/
def readDocument (text : String) : Except Error Value :=
  let input := text.toList.toArray
  match (Read.document.run input).run {} with
  | .ok ((), c) => .ok c.root.value
  | .error e => .error e

end CiManifest.Toml
