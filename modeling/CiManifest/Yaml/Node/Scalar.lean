import CiManifest.Yaml.Node
import CiManifest.Yaml.Token
import CiManifest.Decimal.Nearest
import CiManifest.Decode.Mismatch

/-!
# What a scalar denotes

A quoted or block scalar is a string. A plain scalar is read as the first of
these that fits its text:

* null: empty, `~`, `null`, `Null`, `NULL`;
* a boolean: `true`, `True`, `TRUE`, `false`, `False`, `FALSE`;
* an integer, decimal or with a `0x`, `0o` or `0b` prefix, with an optional
  sign; one that does not fit 64 bits (unsigned, or signed when negative) but
  fits 128 bits is refused;
* a finite double, or `.inf`, `-.inf`, `.nan` in three capitalisations;
* otherwise a string.

Digits with a leading zero, such as `007`, stay a string, as YAML 1.2 wants.

The core tags `!!bool`, `!!int`, `!!float` and `!!null` demand their type and
refuse a text that does not have it; `!!str` and every other tag URI give the
text as a string.
-/

namespace CiManifest.Yaml

open Decode

/-- The words for null. -/
def isNullWord (s : String) : Bool :=
  s == "~" || s == "null" || s == "Null" || s == "NULL"

/-- The words for the booleans. -/
def boolWord? (s : String) : Option Bool :=
  if s == "true" || s == "True" || s == "TRUE" then some true
  else if s == "false" || s == "False" || s == "FALSE" then some false
  else none

/-- Leading zeros followed by digits only, after an optional sign: a string
rather than a number. -/
def digitsButNotNumber (s : String) : Bool :=
  let cs := match s.toList with
    | '-' :: rest => rest
    | '+' :: rest => rest
    | cs => cs
  match cs with
  | '0' :: rest => !rest.isEmpty && rest.all Char.isDigit
  | _ => false

/-- The value of a digit in bases up to 36. -/
def digitValue (c : Char) : Option Nat :=
  if c.isDigit then some (c.toNat - 48)
  else if 'a' ≤ c && c ≤ 'z' then some (c.toNat - 87)
  else if 'A' ≤ c && c ≤ 'Z' then some (c.toNat - 55)
  else none

/-- The value of a run of digits in base `radix`. -/
def digitsValue (radix : Nat) : List Char → Nat → Option Nat
  | [], acc => some acc
  | c :: rest, acc =>
      match digitValue c with
      | some d => if d < radix then digitsValue radix rest (acc * radix + d) else none
      | none => none

/-- Reads an integer in base `radix` as the standard integer readers do: an
optional `+` (or `-` when `signed`) and at least one digit, nothing else. -/
def readRadix (signed : Bool) (radix : Nat) (s : String) : Option Int :=
  let (negative, digits) := match s.toList with
    | '+' :: rest => (false, rest)
    | '-' :: rest => if signed then (true, rest) else (false, '-' :: rest)
    | cs => (false, cs)
  if digits.isEmpty then none
  else (digitsValue radix digits 0).map fun v => if negative then -(v : Int) else v

/-- The text after `p`, when the text starts with it. -/
def afterPrefix? (p s : String) : Option String :=
  if s.startsWith p then some (String.ofList (s.toList.drop p.length)) else none

/-- Whether a text starts with a sign. -/
def startsWithSign (s : String) : Bool :=
  s.startsWith "+" || s.startsWith "-"

/-- The prefixes of integers in bases 16, 8 and 2. -/
def radixPrefixes : List (String × Nat) :=
  [("0x", 16), ("0o", 8), ("0b", 2)]

/-- Reads an unsigned integer below `limit` in base `radix`. -/
def unsignedIn (limit radix : Nat) (s : String) : Option Nat :=
  match readRadix false radix s with
  | some v => if v < limit then some v.toNat else none
  | none => none

/-- Reads a non-negative integer below `limit`, with an optional `+` and an
optional base prefix. -/
def unsignedInt? (limit : Nat) (scalar : String) : Option Nat := Id.run do
  let unpositive := (afterPrefix? "+" scalar).getD scalar
  for (p, radix) in radixPrefixes do
    if let some rest := afterPrefix? p unpositive then
      if startsWithSign rest then return none
      if let some v := unsignedIn limit radix rest then return some v
  if startsWithSign unpositive then return none
  if digitsButNotNumber scalar then return none
  unsignedIn limit 10 unpositive

/-- Reads an integer in `[low, high)`, with an optional sign; a base prefix
is taken after a `-`. -/
def signedInt? (low high : Int) (scalar : String) : Option Int := Id.run do
  for (p, radix) in radixPrefixes do
    if let some rest := afterPrefix? ("-" ++ p) scalar then
      if let some v := readRadix true radix ("-" ++ rest) then
        if low ≤ v && v < high then return some v
  if digitsButNotNumber scalar then return none
  match readRadix true 10 scalar with
  | some v => if low ≤ v && v < high then some v else none
  | none => none

/-- An integer scalar: a number when it fits 64 bits, refused when it needs
128, nothing when it is not an integer at all. -/
def integerScalar (v : String) : Option (Except Mismatch Node) :=
  match unsignedInt? (Nat.pow 2 64) v with
  | some n => some (.ok (.number (.unsigned n)))
  | none =>
      match signedInt? (-Int.ofNat (Nat.pow 2 63)) (Int.ofNat (Nat.pow 2 63)) v with
      | some n => some (.ok (.number (Number.ofInt n)))
      | none =>
          match unsignedInt? (Nat.pow 2 128) v with
          | some n =>
              some (.error (.invalidType (.other ("integer `" ++ toString n ++ "` as u128"))
                "any YAML value"))
          | none =>
              match signedInt? (-Int.ofNat (Nat.pow 2 127)) (Int.ofNat (Nat.pow 2 127)) v with
              | some n =>
                  some (.error (.invalidType (.other ("integer `" ++ toString n ++ "` as i128"))
                    "any YAML value"))
              | none => none

/-- Positive infinity. -/
def infinity : Float := Float.ofBits 0x7FF0000000000000

/-- A quiet NaN with the sign bit clear. -/
def notANumber : Float := Float.ofBits 0x7FF8000000000000

/-- A double scalar: the special words, or a finite decimal. -/
def floatScalar? (scalar : String) : Option Float :=
  let unpositive? :=
    match afterPrefix? "+" scalar with
    | some rest => if startsWithSign rest then none else some rest
    | none => some scalar
  match unpositive? with
  | none => none
  | some u =>
      if u == ".inf" || u == ".Inf" || u == ".INF" then some infinity
      else if scalar == "-.inf" || scalar == "-.Inf" || scalar == "-.INF" then some (-infinity)
      else if scalar == ".nan" || scalar == ".NaN" || scalar == ".NAN" then some notANumber
      else
        match Decimal.readFloat? u with
        | some f => if f.isFinite then some f else none
        | none => none

/-- What a plain scalar without a tag denotes. -/
def untaggedScalar (v : String) : Except Mismatch Node :=
  if v.isEmpty || isNullWord v then .ok .null
  else
    match boolWord? v with
    | some b => .ok (.bool b)
    | none =>
        match integerScalar v with
        | some result => result
        | none =>
            if digitsButNotNumber v then .ok (.string v)
            else
              match floatScalar? v with
              | some f => .ok (.number (.float f))
              | none => .ok (.string v)

/-- The URI of a core tag. -/
def coreTag (name : String) : String :=
  "tag:yaml.org,2002:" ++ name

/-- What a scalar denotes, given its tag (none when the scalar's tag was
already taken as a local tag) and its style. -/
def scalarNode (tag : Option String) (value : String) (style : ScalarStyle) :
    Except Mismatch Node :=
  match tag with
  | some t =>
      if t == coreTag "bool" then
        match boolWord? value with
        | some b => .ok (.bool b)
        | none => .error (.invalidValue (.str value) "a boolean")
      else if t == coreTag "int" then
        match integerScalar value with
        | some result => result
        | none => .error (.invalidValue (.str value) "an integer")
      else if t == coreTag "float" then
        match floatScalar? value with
        | some f => .ok (.number (.float f))
        | none => .error (.invalidValue (.str value) "a float")
      else if t == coreTag "null" then
        if isNullWord value then .ok .null
        else .error (.invalidValue (.str value) "null")
      else if t.startsWith "!" && style == .plain then untaggedScalar value
      else .ok (.string value)
  | none => if style == .plain then untaggedScalar value else .ok (.string value)

/-- The local tag a node is read as: a tag starting with `!`, without it
(`!` alone stays `!`). -/
def localTag? : Option String → Option String
  | some t =>
      match t.toList with
      | '!' :: rest => some (if rest.isEmpty then t else String.ofList rest)
      | _ => none
  | none => none

end CiManifest.Yaml
