/-!
# TOML values and errors

A TOML document is a table. Every value remembers the span of text it was
read from, so that an error about it can point there.

An error is a message and a span. Its report names the line and column of the
span's start (1-based, the column counted in characters), quotes that line, and
underlines the span with carets: at least one, and no further than one past the
end of the line.
-/

namespace CiManifest.Toml

/-- A range of character positions, `start` included and `stop` excluded. -/
structure Span where
  start : Nat
  stop : Nat
  deriving Repr, BEq, Inhabited

/-- The empty span at a position. -/
def Span.at (i : Nat) : Span := ⟨i, i⟩

/-- A TOML value with the span it was read from. -/
inductive Value where
  | string (text : String) (span : Span)
  | integer (value : Int) (span : Span)
  | float (value : Float) (span : Span)
  | boolean (value : Bool) (span : Span)
  | datetime (text : String) (span : Span)
  | array (items : List Value) (span : Span)
  | table (entries : List (String × Value)) (span : Span)
  deriving Inhabited

/-- The span of a value. -/
def Value.span : Value → Span
  | .string _ s | .integer _ s | .float _ s | .boolean _ s | .datetime _ s
  | .array _ s | .table _ s => s

/-- An error of reading or decoding TOML. -/
structure Error where
  message : String
  span : Span
  deriving Inhabited

/-- The 0-based line and column of a position, in characters; a position at
or past the end counts from the last character. -/
def position (input : Array Char) (index : Nat) : Nat × Nat :=
  if input.size == 0 then (0, index)
  else
    let safe := min index (input.size - 1)
    let beyond := index - safe
    let before := (input.extract 0 safe).toList
    let line := before.count '\n'
    let lineStart := before.length - (before.reverse.takeWhile (· != '\n')).length
    (line, safe - lineStart + beyond)

/-- The number of UTF-8 bytes of characters. -/
def byteLength (cs : List Char) : Nat :=
  cs.foldl (fun n c => n + c.utf8Size) 0

/-- The report of an error in `input`. -/
def Error.report (e : Error) (input : String) : String :=
  let chars := input.toList.toArray
  let (line, column) := position chars e.span.start
  let lineNumber := toString (line + 1)
  let content := (input.splitOn "\n").getD line ""
  let spanBytes := byteLength (chars.extract e.span.start e.span.stop).toList
  let highlight := min spanBytes (content.utf8ByteSize - column)
  let gutter := String.ofList (List.replicate (lineNumber.length + 1) ' ')
  "TOML parse error at line " ++ lineNumber ++ ", column " ++ toString (column + 1) ++ "\n" ++
    gutter ++ "|\n" ++
    lineNumber ++ " | " ++ content ++ "\n" ++
    gutter ++ "|" ++ String.ofList (List.replicate (column + 1) ' ') ++ "^" ++
      String.ofList (List.replicate (highlight - 1) '^') ++ "\n" ++
    e.message ++ "\n"

end CiManifest.Toml
