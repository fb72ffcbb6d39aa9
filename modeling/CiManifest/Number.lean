/-!
# Numbers of self-describing data

JSON and YAML readers sort a number into one of three classes, and the class
survives every later step: an unsigned integer that fits 64 bits, a negative
integer that fits 64 signed bits, or a double.
-/

namespace CiManifest

/-- A number as a reader classifies it. -/
inductive Number where
  /-- An integer in `[0, 2^64)`. -/
  | unsigned (value : Nat)
  /-- An integer in `[-2^63, 0)`. -/
  | negative (value : Int)
  /-- Any other number, as a double. -/
  | float (value : Float)
  deriving Inhabited

namespace Number

/-- An integer, classified by its sign. -/
def ofInt (n : Int) : Number :=
  if n < 0 then .negative n else .unsigned n.toNat

/-- Two numbers are the same key when they have the same class and value;
doubles compare as IEEE numbers (so `0.0` and `-0.0` are one key), except that
YAML has one NaN, equal to itself. -/
def sameKey : Number → Number → Bool
  | .unsigned a, .unsigned b => a == b
  | .negative a, .negative b => a == b
  | .float a, .float b => (a.isNaN && b.isNaN) || a == b
  | _, _ => false

/-- A double that is not NaN is equal to itself. -/
theorem float_beq_self {x : Float} (notNaN : x.isNaN = false) : (x == x) = true := by
  -- equality of doubles is the IEEE comparison of their unpacked forms
  change x.toModel.unpack.beq x.toModel.unpack = true
  change x.toModel.unpack.isNaN = false at notNaN
  generalize x.toModel.unpack = u at notNaN ⊢
  cases u with
  | infinity s => cases s <;> rfl
  | notANumber => exact absurd notNaN (by decide)
  | zero s => rfl
  | finite s m e pos =>
      -- the same exponent and mantissa compare equal, whatever the sign
      have same : (compare e e).then (compare m m) = .eq := by rw [Std.compare_self, Std.compare_self]; rfl
      cases s with
      | negative =>
          show (some ((compare e e).then (compare m m)).swap == some .eq) = true
          rw [same]; rfl
      | positive =>
          show (some ((compare e e).then (compare m m)) == some .eq) = true
          rw [same]; rfl

/-- Every number is the same key as itself: NaN is one value, and any other
double equals itself. -/
@[simp]
theorem sameKey_self (n : Number) : n.sameKey n = true := by
  cases n with
  | unsigned a => simp only [sameKey, beq_self_eq_true]
  | negative a => simp only [sameKey, beq_self_eq_true]
  | float x =>
      cases nan : x.isNaN with
      | true => simp only [sameKey, nan, Bool.and_self, Bool.true_or]
      | false => simp only [sameKey, nan, float_beq_self nan, Bool.and_self, Bool.or_true]

end Number

end CiManifest
