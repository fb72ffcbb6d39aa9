import CiManifest.Json.Value
import CiManifest.Decimal.Shortest

/-!
# Writing JSON

Strings escape the quote, the backslash and the control characters below
`0x20`; the five with a short form (`\b`, `\t`, `\n`, `\f`, `\r`) use it and
the others `\u00xx` with lowercase hex digits. Everything else, non-ASCII
included, is written as it is. Doubles take their fewest digits; a double that
is not finite is written `null`.

`render` writes a value compactly; `pretty` indents by two spaces per level,
puts `": "` between a key and its value, and writes empty containers as `[]`
and `{}`.
-/

namespace CiManifest.Json

/-- Doubles are positional up to sixteen integral digits and with fewer than five
leading zeros after the point, else scientific with a signed exponent. -/
def numberLayout : Decimal.Layout :=
  { scientific := true, positionalLimit := 16, leadingZeroLimit := 5, exponentPlus := true }

/-- The hex digit of a value below sixteen. -/
def hexDigit (n : Nat) : Char :=
  if n < 10 then Char.ofNat (48 + n) else Char.ofNat (87 + n)

/-- The escaped form of one character inside a string. -/
def escapeChar (c : Char) : String :=
  match c with
  | '"' => "\\\""
  | '\\' => "\\\\"
  | '\x08' => "\\b"
  | '\t' => "\\t"
  | '\n' => "\\n"
  | '\x0c' => "\\f"
  | '\r' => "\\r"
  | c =>
      if c.toNat < 0x20 then
        "\\u00" ++ String.singleton (hexDigit (c.toNat / 16)) ++
          String.singleton (hexDigit (c.toNat % 16))
      else String.singleton c

/-- A string literal. -/
def quote (s : String) : String :=
  "\"" ++ String.join (s.toList.map escapeChar) ++ "\""

/-- The text of a number. -/
def numberText : Number → String
  | .unsigned n => toString n
  | .negative n => toString n
  | .float x =>
      if x.isNaN || x.isInf then "null" else numberLayout.format "inf" "NaN" x

mutual

/-- The compact text of a value. -/
def Value.render : Value → String
  | .null => "null"
  | .bool b => if b then "true" else "false"
  | .number n => numberText n
  | .string s => quote s
  | .array items => "[" ++ renderItems items ++ "]"
  | .object fields => "\x7b" ++ renderFields fields ++ "\x7d"

/-- The compact text of array items, comma separated. -/
def renderItems : List Value → String
  | [] => ""
  | [v] => v.render
  | v :: rest => v.render ++ "," ++ renderItems rest

/-- The compact text of object fields, comma separated. -/
def renderFields : List (String × Value) → String
  | [] => ""
  | [(k, v)] => quote k ++ ":" ++ v.render
  | (k, v) :: rest => quote k ++ ":" ++ v.render ++ "," ++ renderFields rest

end

/-- Two spaces per level of nesting. -/
def indentation (level : Nat) : String :=
  String.ofList (List.replicate (2 * level) ' ')

mutual

/-- The indented text of a value whose first line starts at nesting `level`. -/
def Value.pretty (level : Nat) : Value → String
  | .array [] => "[]"
  | .object [] => "\x7b\x7d"
  | .array items => "[\n" ++ prettyItems (level + 1) items ++ "\n" ++ indentation level ++ "]"
  | .object fields =>
      "\x7b\n" ++ prettyFields (level + 1) fields ++ "\n" ++ indentation level ++ "\x7d"
  | v => v.render

/-- Indented array items, one per line. -/
def prettyItems (level : Nat) : List Value → String
  | [] => ""
  | [v] => indentation level ++ v.pretty level
  | v :: rest => indentation level ++ v.pretty level ++ ",\n" ++ prettyItems level rest

/-- Indented object fields, one per line. -/
def prettyFields (level : Nat) : List (String × Value) → String
  | [] => ""
  | [(k, v)] => indentation level ++ quote k ++ ": " ++ v.pretty level
  | (k, v) :: rest =>
      indentation level ++ quote k ++ ": " ++ v.pretty level ++ ",\n" ++ prettyFields level rest

end

/-- The indented text of a value. -/
def Value.prettyText (v : Value) : String :=
  v.pretty 0

end CiManifest.Json
