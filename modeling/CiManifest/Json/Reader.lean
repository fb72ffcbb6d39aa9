import CiManifest.Json.Value

/-!
# Reading JSON

The reader works on the UTF-8 bytes of a text. A number without fraction or
exponent is an unsigned integer while it fits 64 bits, a negative integer while
it fits 64 signed bits, and a double otherwise (`-0` is the double `-0.0`). A
double is built from at most nineteen significant digits and a power of ten,
multiplied or divided in double arithmetic. Objects keep one value per key, the
last one, in increasing key order. Nesting deeper than 127 containers is
refused.

An error names its cause and the line and byte column where it was found.
-/

namespace CiManifest.Json

/-- Why a text is not JSON. -/
inductive ReadErrorCode where
  | eofWhileParsingList
  | eofWhileParsingObject
  | eofWhileParsingString
  | eofWhileParsingValue
  | expectedColon
  | expectedListCommaOrEnd
  | expectedObjectCommaOrEnd
  | expectedSomeIdent
  | expectedSomeValue
  | invalidEscape
  | invalidNumber
  | numberOutOfRange
  | invalidUnicodeCodePoint
  | controlCharacterWhileParsingString
  | keyMustBeAString
  | loneLeadingSurrogateInHexEscape
  | trailingComma
  | trailingCharacters
  | unexpectedEndOfHexEscape
  | recursionLimitExceeded
  deriving Repr, BEq

/-- The wording of each cause. -/
def ReadErrorCode.message : ReadErrorCode → String
  | .eofWhileParsingList => "EOF while parsing a list"
  | .eofWhileParsingObject => "EOF while parsing an object"
  | .eofWhileParsingString => "EOF while parsing a string"
  | .eofWhileParsingValue => "EOF while parsing a value"
  | .expectedColon => "expected `:`"
  | .expectedListCommaOrEnd => "expected `,` or `]`"
  | .expectedObjectCommaOrEnd => "expected `,` or `\x7d`"
  | .expectedSomeIdent => "expected ident"
  | .expectedSomeValue => "expected value"
  | .invalidEscape => "invalid escape"
  | .invalidNumber => "invalid number"
  | .numberOutOfRange => "number out of range"
  | .invalidUnicodeCodePoint => "invalid unicode code point"
  | .controlCharacterWhileParsingString =>
      "control character (\\u0000-\\u001F) found while parsing a string"
  | .keyMustBeAString => "key must be a string"
  | .loneLeadingSurrogateInHexEscape => "lone leading surrogate in hex escape"
  | .trailingComma => "trailing comma"
  | .trailingCharacters => "trailing characters"
  | .unexpectedEndOfHexEscape => "unexpected end of hex escape"
  | .recursionLimitExceeded => "recursion limit exceeded"

/-- A reading error with its 1-based line and its byte column. -/
structure ReadError where
  code : ReadErrorCode
  line : Nat
  column : Nat
  deriving Repr

/-- The error text: the cause, then where it was found. -/
def ReadError.message (e : ReadError) : String :=
  e.code.message ++ " at line " ++ toString e.line ++ " column " ++ toString e.column

/-- The bytes being read. -/
abbrev Input := ByteArray

/-- The byte at `i`, if any. -/
def byteAt (input : Input) (i : Nat) : Option UInt8 :=
  if h : i < input.size then some input[i] else none

/-- Line and column of the byte boundary `i`: the column counts the bytes since
the last line break before `i`. -/
def ReadError.at (input : Input) (code : ReadErrorCode) (i : Nat) : ReadError :=
  let before := (input.extract 0 (min i input.size)).toList
  let lineStart := before.length - (before.reverse.takeWhile (· != 10)).length
  let breaks := (before.take lineStart).count 10
  { code, line := breaks + 1, column := i - lineStart }

/-- An error found while looking at the byte at `i` without taking it. -/
def peekError (input : Input) (code : ReadErrorCode) (i : Nat) : ReadError :=
  ReadError.at input code (min input.size (i + 1))

/-- Skips spaces, tabs, carriage returns and line feeds. -/
def skipBlank (input : Input) (i : Nat) : Nat :=
  if h : i < input.size then
    let b := input[i]
    if b == 32 || b == 9 || b == 10 || b == 13 then skipBlank input (i + 1) else i
  else i
termination_by input.size - i

/-- Whether `b` is an ASCII digit. -/
def isDigit (b : UInt8) : Bool :=
  48 ≤ b && b ≤ 57

/-- The powers of ten that a double holds, from `1e0` to `1e308`. -/
def powerOfTen (k : Nat) : Float :=
  Float.ofScientific 1 false k

/-- `significand · 10^exponent` in double arithmetic: the significand is
converted, then multiplied or divided by a power of ten; exponents beyond the
range of doubles divide in steps of `1e308`. A product that overflows is out of
range. -/
def fromParts (positive : Bool) (significand : Nat) (exponent : Int) : Option Float :=
  let start := significand.toUInt64.toFloat
  let rec go : Nat → Float → Int → Option Float
    | 0, f, _ => some f
    | fuel + 1, f, e =>
        if e.natAbs ≤ 308 then
          if e ≥ 0 then
            let g := f * powerOfTen e.natAbs
            if g.isInf then none else some g
          else some (f / powerOfTen e.natAbs)
        else if f == 0.0 then some f
        else if e ≥ 0 then none
        else go fuel (f / powerOfTen 308) (e + 308)
  match go 40 start exponent with
  | some f => some (if positive then f else -f)
  | none => none

/-- Whether appending `digit` to `acc` stays within `limit`. -/
def fitsAfter (acc digit limit : Nat) : Bool :=
  !(acc ≥ limit / 10 && (acc > limit / 10 || digit > limit % 10))

/-- The largest unsigned 64-bit integer. -/
def u64Max : Nat := Nat.pow 2 64 - 1

/-- Reads digits at `i` and counts them, ignoring their value. -/
def skipDigits (input : Input) (i : Nat) : Nat :=
  if h : i < input.size then
    if isDigit input[i] then skipDigits input (i + 1) else i
  else i
termination_by input.size - i

/-- Reads the exponent after `e` or `E` (at `i`, the letter already taken). -/
def readExponent (input : Input) (positive : Bool) (significand : Nat) (start : Int)
    (i : Nat) : Except ReadError (Float × Nat) :=
  let (positiveExp, j) :=
    match byteAt input i with
    | some 43 => (true, i + 1)
    | some 45 => (false, i + 1)
    | _ => (true, i)
  match byteAt input j with
  | none => .error (ReadError.at input .eofWhileParsingValue j)
  | some b =>
      if !isDigit b then .error (ReadError.at input .invalidNumber (j + 1))
      else
        let finish := skipDigits input (j + 1)
        let digits := (input.extract j finish).toList.map (fun d => (d - 48).toNat)
        let overflowAt := digits.length > 1 &&
          (digits.foldl (fun acc d => acc * 10 + d) 0) > 2147483647
        if overflowAt then
          if significand != 0 && positiveExp then
            -- the error is reported at the digit that overflows
            let value := digits.foldl (fun (acc : Nat × Nat × Bool) d =>
              if acc.2.2 then acc
              else if fitsAfter acc.1 d 2147483647 then (acc.1 * 10 + d, acc.2.1 + 1, false)
              else (acc.1, acc.2.1 + 1, true)) (0, 0, false)
            .error (ReadError.at input .numberOutOfRange (j + value.2.1))
          else .ok (if positive then 0.0 else -0.0, finish)
        else
          let e : Int := (digits.foldl (fun acc d => acc * 10 + d) 0 : Nat)
          let final := if positiveExp then start + e else start - e
          match fromParts positive significand final with
          | some f => .ok (f, finish)
          | none => .error (ReadError.at input .numberOutOfRange finish)

/-- Reads the fraction after the point (at `i`, the point already taken). -/
def readFraction (input : Input) (positive : Bool) (significand : Nat) (before : Int)
    (i : Nat) : Except ReadError (Float × Nat) :=
  let finish := skipDigits input i
  if finish == i then
    match byteAt input i with
    | some _ => .error (peekError input .invalidNumber i)
    | none => .error (peekError input .eofWhileParsingValue i)
  else
    let digits := (input.extract i finish).toList.map (fun d => (d - 48).toNat)
    -- digits that would overflow 64 bits are dropped
    let (sig, used, _) := digits.foldl (fun (acc : Nat × Nat × Bool) d =>
      if acc.2.2 then acc
      else if fitsAfter acc.1 d u64Max then (acc.1 * 10 + d, acc.2.1 + 1, false)
      else (acc.1, acc.2.1, true)) (significand, 0, false)
    let exponent := before - used
    match byteAt input finish with
    | some 101 | some 69 => readExponent input positive sig exponent (finish + 1)
    | _ =>
        match fromParts positive sig exponent with
        | some f => .ok (f, finish)
        | none => .error (ReadError.at input .numberOutOfRange finish)

/-- Reads a number whose sign is already taken, starting at its first digit. -/
def readNumber (input : Input) (positive : Bool) (i : Nat) : Except ReadError (Number × Nat) :=
  match byteAt input i with
  | none => .error (ReadError.at input .eofWhileParsingValue i)
  | some b =>
      if b == 48 && (match byteAt input (i + 1) with | some c => isDigit c | none => false) then
        .error (peekError input .invalidNumber (i + 1))
      else if !isDigit b then .error (ReadError.at input .invalidNumber (i + 1))
      else
        let finish := skipDigits input i
        let digits := (input.extract i finish).toList.map (fun d => (d - 48).toNat)
        let (sig, used, overflowed) := digits.foldl (fun (acc : Nat × Nat × Bool) d =>
          if acc.2.2 then acc
          else if fitsAfter acc.1 d u64Max then (acc.1 * 10 + d, acc.2.1 + 1, false)
          else (acc.1, acc.2.1, true)) (0, 0, false)
        let dropped : Int := digits.length - used
        let asFloat (r : Except ReadError (Float × Nat)) : Except ReadError (Number × Nat) :=
          r.map fun (f, j) => (.float f, j)
        match byteAt input finish with
        | some 46 => asFloat (readFraction input positive sig dropped (finish + 1))
        | some 101 | some 69 => asFloat (readExponent input positive sig dropped (finish + 1))
        | _ =>
            if overflowed then
              match fromParts positive sig dropped with
              | some f => .ok (.float f, finish)
              | none => .error (ReadError.at input .numberOutOfRange finish)
            else if positive then .ok (.unsigned sig, finish)
            else if sig == 0 || sig > Nat.pow 2 63 then
              .ok (.float (-(sig.toUInt64.toFloat)), finish)
            else .ok (.negative (-(sig : Int)), finish)

/-- The value of a hex digit. -/
def hexValue (b : UInt8) : Option Nat :=
  if 48 ≤ b && b ≤ 57 then some (b - 48).toNat
  else if 97 ≤ b && b ≤ 102 then some (b - 87).toNat
  else if 65 ≤ b && b ≤ 70 then some (b - 55).toNat
  else none

/-- Reads the four hex digits at `i`. -/
def readHex4 (input : Input) (i : Nat) : Except ReadError Nat :=
  let step (acc : Except ReadError Nat) (k : Nat) : Except ReadError Nat :=
    acc.bind fun v =>
      match byteAt input (i + k) with
      | none => .error (ReadError.at input .eofWhileParsingString (i + k))
      | some b =>
          match hexValue b with
          | some d => .ok (v * 16 + d)
          | none => .error (ReadError.at input .invalidEscape (i + k + 1))
  [0, 1, 2, 3].foldl step (.ok 0)

/-- The UTF-8 bytes of a code point. -/
def utf8Bytes (c : Char) : List UInt8 :=
  (String.singleton c).toUTF8.toList

/-- Reads the rest of a string after its opening quote, as bytes. -/
def readStringBytes (input : Input) (i : Nat) (acc : Array UInt8) :
    Except ReadError (Array UInt8 × Nat) :=
  if h : i < input.size then
    let b := input[i]
    if b == 34 then .ok (acc, i + 1)
    else if b == 92 then
      match byteAt input (i + 1) with
      | none => .error (ReadError.at input .eofWhileParsingString (i + 1))
      | some e =>
          let simple (c : UInt8) := readStringBytes input (i + 2) (acc.push c)
          match e with
          | 34 => simple 34
          | 92 => simple 92
          | 47 => simple 47
          | 98 => simple 8
          | 102 => simple 12
          | 110 => simple 10
          | 114 => simple 13
          | 116 => simple 9
          | 117 =>
              match readHex4 input (i + 2) with
              | .error err => .error err
              | .ok code =>
                  let j := i + 6
                  if 0xDC00 ≤ code && code ≤ 0xDFFF then
                    .error (ReadError.at input .invalidUnicodeCodePoint j)
                  else if 0xD800 ≤ code && code ≤ 0xDBFF then
                    match byteAt input j, byteAt input (j + 1) with
                    | some 92, some 117 =>
                        match readHex4 input (i + 8) with
                        | .error err => .error err
                        | .ok low =>
                            if 0xDC00 ≤ low && low ≤ 0xDFFF then
                              let c := Char.ofNat (0x10000 + (code - 0xD800) * 0x400 + (low - 0xDC00))
                              readStringBytes input (i + 12) (acc ++ (utf8Bytes c).toArray)
                            else .error (ReadError.at input .invalidUnicodeCodePoint (i + 12))
                    | some _, _ => .error (ReadError.at input .loneLeadingSurrogateInHexEscape (j + 1))
                    | none, _ => .error (ReadError.at input .eofWhileParsingString j)
                  else
                    readStringBytes input (i + 6) (acc ++ (utf8Bytes (Char.ofNat code)).toArray)
          | _ => .error (ReadError.at input .invalidEscape (i + 2))
    else if b < 32 then .error (ReadError.at input .controlCharacterWhileParsingString (i + 1))
    else readStringBytes input (i + 1) (acc.push b)
  else .error (ReadError.at input .eofWhileParsingString input.size)
termination_by input.size - i

/-- Reads a string after its opening quote. -/
def readString (input : Input) (i : Nat) : Except ReadError (String × Nat) :=
  (readStringBytes input i #[]).map fun (bytes, j) =>
    (String.fromUTF8? (ByteArray.mk bytes) |>.getD "", j)

/-- Whether the bytes at `i` spell `word`; on a mismatch, the error at the
first byte that differs. -/
def readWord (input : Input) (word : List UInt8) (i : Nat) : Except ReadError Nat :=
  match word with
  | [] => .ok i
  | w :: rest =>
      match byteAt input i with
      | none => .error (ReadError.at input .eofWhileParsingValue i)
      | some b =>
          if b == w then readWord input rest (i + 1)
          else .error (ReadError.at input .expectedSomeIdent (i + 1))

mutual

/-- Reads one value at `i` (blanks first), with `depth` more containers allowed. -/
def readValue (input : Input) : Nat → Nat → Nat → Except ReadError (Value × Nat)
  | 0, _, i => .error (peekError input .eofWhileParsingValue i)
  | fuel + 1, depth, start =>
      let i := skipBlank input start
      match byteAt input i with
      | none => .error (peekError input .eofWhileParsingValue i)
      | some b =>
          if b == 110 then (readWord input [117, 108, 108] (i + 1)).map fun j => (.null, j)
          else if b == 116 then (readWord input [114, 117, 101] (i + 1)).map fun j => (.bool true, j)
          else if b == 102 then
            (readWord input [97, 108, 115, 101] (i + 1)).map fun j => (.bool false, j)
          else if b == 45 then (readNumber input false (i + 1)).map fun (n, j) => (.number n, j)
          else if isDigit b then (readNumber input true i).map fun (n, j) => (.number n, j)
          else if b == 34 then (readString input (i + 1)).map fun (s, j) => (.string s, j)
          else if b == 91 then
            if depth ≤ 1 then .error (peekError input .recursionLimitExceeded i)
            else readItems input fuel (depth - 1) true [] (i + 1)
          else if b == 123 then
            if depth ≤ 1 then .error (peekError input .recursionLimitExceeded i)
            else readFields input fuel (depth - 1) true [] (i + 1)
          else .error (peekError input .expectedSomeValue i)

/-- Reads array items until the closing bracket. -/
def readItems (input : Input) : Nat → Nat → Bool → List Value → Nat →
    Except ReadError (Value × Nat)
  | 0, _, _, _, i => .error (peekError input .eofWhileParsingList i)
  | fuel + 1, depth, first, acc, start =>
      let i := skipBlank input start
      match byteAt input i with
      | none => .error (peekError input .eofWhileParsingList i)
      | some 93 => .ok (.array acc.reverse, i + 1)
      | some b =>
          let next : Except ReadError Nat :=
            if b == 44 && !first then
              let j := skipBlank input (i + 1)
              match byteAt input j with
              | some 93 => .error (peekError input .trailingComma j)
              | none => .error (peekError input .eofWhileParsingValue j)
              | some _ => .ok j
            else if first then .ok i
            else .error (peekError input .expectedListCommaOrEnd i)
          match next with
          | .error e => .error e
          | .ok j =>
              match readValue input fuel depth j with
              | .error e => .error e
              | .ok (v, k) => readItems input fuel depth false (v :: acc) k

/-- Reads object fields until the closing brace. -/
def readFields (input : Input) : Nat → Nat → Bool → List (String × Value) → Nat →
    Except ReadError (Value × Nat)
  | 0, _, _, _, i => .error (peekError input .eofWhileParsingObject i)
  | fuel + 1, depth, first, acc, start =>
      let i := skipBlank input start
      match byteAt input i with
      | none => .error (peekError input .eofWhileParsingObject i)
      | some 125 => .ok (.object (sortedFields acc.reverse), i + 1)
      | some b =>
          let next : Except ReadError Nat :=
            if b == 44 && !first then
              let j := skipBlank input (i + 1)
              match byteAt input j with
              | some 34 => .ok j
              | some 125 => .error (peekError input .trailingComma j)
              | some _ => .error (peekError input .keyMustBeAString j)
              | none => .error (peekError input .eofWhileParsingValue j)
            else if first then
              if b == 34 then .ok i else .error (peekError input .keyMustBeAString i)
            else .error (peekError input .expectedObjectCommaOrEnd i)
          match next with
          | .error e => .error e
          | .ok j =>
              match readString input (j + 1) with
              | .error e => .error e
              | .ok (key, k) =>
                  let colon := skipBlank input k
                  match byteAt input colon with
                  | none => .error (peekError input .eofWhileParsingObject colon)
                  | some 58 =>
                      match readValue input fuel depth (colon + 1) with
                      | .error e => .error e
                      | .ok (v, m) => readFields input fuel depth false ((key, v) :: acc) m
                  | some _ => .error (peekError input .expectedColon colon)

end

/-- Reads a whole text as one JSON value; only blanks may follow it. -/
def read (text : String) : Except ReadError Value :=
  let input := text.toUTF8
  match readValue input (input.size + 2) 128 0 with
  | .error e => .error e
  | .ok (v, i) =>
      let j := skipBlank input i
      if j < input.size then .error (peekError input .trailingCharacters j) else .ok v

end CiManifest.Json
