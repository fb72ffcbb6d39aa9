/-!
# The double nearest to a decimal

A decimal `digits · 10^exponent` is a rational number; the double nearest to it
is found with exact `Nat` arithmetic. The binary exponent is the one that puts
the value's leading bit at the top of a 53-bit significand, or the smallest
one for subnormal values; the quotient at that exponent is rounded to the
nearest integer, an exact half going to the even one.

Decimals far out of range are settled before any arithmetic: past about
`10^310` every value is infinite, and below about `10^-343` every value rounds
to zero, however many digits it has.

`readFloat?` reads the text of a decimal as the standard library of many
languages does: an optional sign, digits with at most one point and at least
one digit, and an optional exponent `e` or `E` with an optional sign.
-/

namespace CiManifest.Decimal

/-- The floor of the base-2 logarithm of `num / den`, for positive values. -/
def floorLog2 (num den : Nat) : Int :=
  let k : Int := (num.log2 : Int) - den.log2
  let below := if k ≥ 0 then num < den * Nat.pow 2 k.toNat else num * Nat.pow 2 (-k).toNat < den
  if below then k - 1 else k

/-- The bits of the double nearest to `num / den`, which is positive. -/
def nearestBits (num den : Nat) : UInt64 :=
  let k := floorLog2 num den
  let b : Int := max (k - 52) (-1074)
  let (n, d) := if b ≥ 0 then (num, den * Nat.pow 2 b.toNat) else (num * Nat.pow 2 (-b).toNat, den)
  let m := n / d
  let r := n % d
  let m := if 2 * r > d || (2 * r == d && m % 2 == 1) then m + 1 else m
  let (m, b) := if m == Nat.pow 2 53 then (Nat.pow 2 52, b + 1) else (m, b)
  if b > 971 then 0x7FF0000000000000
  else if m < Nat.pow 2 52 then UInt64.ofNat m
  else UInt64.ofNat ((((b + 1075).toNat) <<< 52) ||| (m - Nat.pow 2 52))

/-- The double nearest to `digits · 10^exponent`, negated when `negative`. -/
def nearest (negative : Bool) (digits : Nat) (exponent : Int) : Float :=
  let sign : UInt64 := if negative then 0x8000000000000000 else 0
  let magnitude : UInt64 :=
    if digits == 0 then 0
    else
      let size : Int := (toString digits).length
      if exponent + size > 310 then 0x7FF0000000000000
      else if exponent + size < -343 then 0
      else if exponent ≥ 0 then nearestBits (digits * Nat.pow 10 exponent.toNat) 1
      else nearestBits digits (Nat.pow 10 (-exponent).toNat)
  Float.ofBits (sign ||| magnitude)

/-- Reads a run of ASCII digits: their value and how many there are. -/
def readDigits : List Char → Nat → Nat → Nat × Nat × List Char
  | c :: rest, value, count =>
      if c.isDigit then readDigits rest (value * 10 + (c.toNat - 48)) (count + 1)
      else (value, count, c :: rest)
  | [], value, count => (value, count, [])

/-- Reads an optional sign: whether it is `-`, and what follows. -/
def readSign : List Char → Bool × List Char
  | '+' :: rest => (false, rest)
  | '-' :: rest => (true, rest)
  | cs => (false, cs)

/-- Reads a decimal number in full, or nothing when the text is not one. -/
def readFloat? (text : String) : Option Float :=
  let (negative, cs) := readSign text.toList
  let (whole, wholeCount, cs) := readDigits cs 0 0
  let (fraction, fractionCount, cs) :=
    match cs with
    | '.' :: rest => readDigits rest 0 0
    | _ => (0, 0, cs)
  if wholeCount + fractionCount == 0 then none
  else
    let exponent? : Option Int :=
      match cs with
      | [] => some 0
      | e :: rest =>
          if e == 'e' || e == 'E' then
            let (expNegative, rest) := readSign rest
            let (value, count, rest) := readDigits rest 0 0
            if count == 0 || !rest.isEmpty then none
            else some (if expNegative then -(value : Int) else value)
          else none
    match exponent? with
    | none => none
    | some exponent =>
        some (nearest negative (whole * Nat.pow 10 fractionCount + fraction)
          (exponent - fractionCount))

end CiManifest.Decimal
