/-!
# Shortest decimal digits of a double

A finite double is exactly `significand · 2^exponent`. The reals that round to
it form an interval around it whose ends belong to it when the significand is
even. The digits chosen here are those of the coarsest decimal grid that meets
the interval; on that grid the nearer of the value's two neighbours wins, and an
exact tie goes to the even one. Everything is compared in exact `Nat`
arithmetic, so the choice never depends on floating-point operations.

`Layout` records how a printer places those digits: positional or scientific
notation, a trailing `.0`, and the sign of the exponent.
-/

namespace CiManifest.Decimal

/-- A finite nonzero double as its sign and the exact value
`significand · 2^exponent`. -/
structure Binary where
  negative : Bool
  significand : Nat
  exponent : Int
  deriving Repr, BEq

/-- What the bits of a double encode. -/
inductive Class where
  | nan
  | infinite (negative : Bool)
  | zero (negative : Bool)
  | finite (value : Binary)
  deriving Repr, BEq

/-- Splits the 64 bits of a double into sign, biased exponent and fraction. -/
def classifyBits (bits : UInt64) : Class :=
  let negative := bits >>> 63 == 1
  let biased := ((bits >>> 52) &&& 0x7FF).toNat
  let fraction := (bits &&& 0xFFFFFFFFFFFFF).toNat
  if biased == 0x7FF then
    if fraction == 0 then .infinite negative else .nan
  else if biased == 0 then
    if fraction == 0 then .zero negative else .finite ⟨negative, fraction, -1074⟩
  else
    .finite ⟨negative, fraction + Nat.pow 2 52, (biased : Int) - 1075⟩

/-- The class of a double, read off its bits. -/
def classify (x : Float) : Class :=
  classifyBits x.toBits

/-- The exact quotient `x · 2^e / 10^j` as a numerator and a denominator. -/
def quotient (x : Nat) (e j : Int) : Nat × Nat :=
  (x * Nat.pow 2 e.toNat * Nat.pow 10 (-j).toNat, Nat.pow 2 (-e).toNat * Nat.pow 10 j.toNat)

/-- The rounding interval of a double, with its ends and its midpoint scaled by
`2^exponent`. -/
structure Interval where
  low : Nat
  value : Nat
  high : Nat
  exponent : Int
  inclusive : Bool
  deriving Repr

/-- The reals that round to `b`. The gap below a power of two is half the gap
above it, except at the smallest exponent. -/
def Binary.interval (b : Binary) : Interval :=
  let halvedBelow := b.significand == Nat.pow 2 52 && b.exponent > -1074
  { low := 4 * b.significand - (if halvedBelow then 1 else 2)
    value := 4 * b.significand
    high := 4 * b.significand + 2
    exponent := b.exponent - 2
    inclusive := b.significand % 2 == 0 }

/-- Whether `d · 10^j` lies in the interval. -/
def Interval.contains (i : Interval) (d : Nat) (j : Int) : Bool :=
  let (lowNum, den) := quotient i.low i.exponent j
  let (highNum, _) := quotient i.high i.exponent j
  let point := d * den
  if i.inclusive then lowNum ≤ point && point ≤ highNum
  else lowNum < point && point < highNum

/-- The digits chosen on the grid `10^j`, if a neighbour of the value on that
grid lies in the interval: the nearer one, and on an exact tie the even one. -/
def Interval.pick (i : Interval) (j : Int) : Option Nat :=
  let (num, den) := quotient i.value i.exponent j
  let below := num / den
  let above := if num % den == 0 then below else below + 1
  let belowFits := below != 0 && i.contains below j
  let aboveFits := i.contains above j
  match belowFits, aboveFits with
  | true, true =>
      if below == above then some below
      else if 2 * num < (below + above) * den then some below
      else if 2 * num > (below + above) * den then some above
      else if below % 2 == 0 then some below
      else some above
  | true, false => some below
  | false, true => some above
  | false, false => none

/-- Tries the grids `10^j`, `10^(j-1)`, … for at most `fuel` steps. -/
def Interval.search (i : Interval) : Nat → Int → Option (Nat × Int)
  | 0, _ => none
  | fuel + 1, j =>
      match i.pick j with
      | some d => some (d, j)
      | none => i.search fuel (j - 1)

/-- A finite nonzero decimal `digits · 10^exponent`. -/
structure Scientific where
  digits : Nat
  exponent : Int
  deriving Repr, BEq

/-- Removes trailing zeros from the digits, moving them into the exponent. -/
def Scientific.normalize : Nat → Scientific → Scientific
  | 0, s => s
  | fuel + 1, s =>
      if s.digits != 0 && s.digits % 10 == 0 then
        Scientific.normalize fuel ⟨s.digits / 10, s.exponent + 1⟩
      else s

/-- A decimal exponent at most one below `⌊log₁₀ v⌋`, from the bit length. -/
def Binary.exponentEstimate (b : Binary) : Int :=
  ((b.significand.log2 : Int) + b.exponent) * 30103 / 100000

/-- The fewest decimal digits that read back as `b`. Seventeen digits always
suffice, so the search starts two grids above the estimate and needs at most
twenty-five steps. -/
def Binary.shortest (b : Binary) : Scientific :=
  match b.interval.search 25 (b.exponentEstimate + 2) with
  | some (d, j) => Scientific.normalize 20 ⟨d, j⟩
  | none => ⟨b.significand, 0⟩

/-- How a printer lays out shortest digits. With `scientific`, the value is
written as `d.ddd` and an exponent when the decimal point would fall more than
`positionalLimit` digits after the first digit, or when at least
`leadingZeroLimit` zeros would follow the point before the first digit. -/
structure Layout where
  scientific : Bool
  positionalLimit : Nat
  leadingZeroLimit : Nat
  exponentPlus : Bool
  deriving Repr

/-- `n` copies of the character `c`. -/
def zeros (n : Nat) : String :=
  String.ofList (List.replicate n '0')

/-- The text of `digits · 10^exponent` without a sign. Integral values written
positionally end in `.0`. -/
def Layout.render (layout : Layout) (s : Scientific) : String :=
  let text := toString s.digits
  let n : Int := text.length
  let point := n + s.exponent
  if layout.scientific &&
      (point > (layout.positionalLimit : Int) || point ≤ -(layout.leadingZeroLimit : Int)) then
    let first := String.ofList (text.toList.take 1)
    let rest := String.ofList (text.toList.drop 1)
    let mantissa := if rest.isEmpty then first else first ++ "." ++ rest
    let e := point - 1
    let sign := if e < 0 then "-" else if layout.exponentPlus then "+" else ""
    mantissa ++ "e" ++ sign ++ toString e.natAbs
  else if s.exponent ≥ 0 then
    text ++ zeros s.exponent.toNat ++ ".0"
  else if point > 0 then
    String.ofList (text.toList.take point.toNat) ++ "." ++
      String.ofList (text.toList.drop point.toNat)
  else
    "0." ++ zeros point.natAbs ++ text

/-- The text of a finite double under `layout`, or the given spellings of
infinity and NaN. Zero is `0.0` with its sign. -/
def Layout.format (layout : Layout) (infinity nan : String) (x : Float) : String :=
  match classify x with
  | .nan => nan
  | .infinite negative => (if negative then "-" else "") ++ infinity
  | .zero negative => (if negative then "-" else "") ++ "0.0"
  | .finite b => (if b.negative then "-" else "") ++ layout.render b.shortest

end CiManifest.Decimal
