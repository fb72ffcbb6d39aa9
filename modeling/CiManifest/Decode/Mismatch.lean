import CiManifest.Text.Quoted
import CiManifest.Decimal.Shortest
import CiManifest.Json.Printer

/-!
# Shape mismatches

Reading a typed value out of self-describing data fails when the data has
another shape than the type expects. A mismatch records what was found and
what was expected; its message follows one fixed pattern per kind of mismatch
(`invalid type: …, expected …`, `missing field …`).

Readers differ only in how they word what they found: for mappings read from
YAML or TOML the empty value is a `unit value` and a double is written in full
positional notation, while for JSON it is `null` and a double takes its
shortest form.
-/

namespace CiManifest.Decode

/-- What was found where something else was expected. -/
inductive Unexpected where
  | bool (value : Bool)
  | unsigned (value : Nat)
  | signed (value : Int)
  | float (value : Float)
  | str (value : String)
  | unit
  | seq
  | map
  | enum
  | other (text : String)
  deriving Inhabited

/-- How a reader words the empty value and doubles. -/
structure Wording where
  unit : String
  float : Float → String

/-- Full positional notation with at least one decimal place. -/
def positionalLayout : Decimal.Layout :=
  { scientific := false, positionalLimit := 0, leadingZeroLimit := 0, exponentPlus := false }

/-- The wording of YAML and TOML readers. -/
def Wording.mapping : Wording :=
  { unit := "unit value", float := positionalLayout.format "inf" "NaN" }

/-- The wording of the JSON reader. -/
def Wording.json : Wording :=
  { unit := "null", float := Json.numberLayout.format "inf" "NaN" }

/-- The description of what was found. -/
def Unexpected.describe (w : Wording) : Unexpected → String
  | .bool b => "boolean `" ++ toString b ++ "`"
  | .unsigned n => "integer `" ++ toString n ++ "`"
  | .signed n => "integer `" ++ toString n ++ "`"
  | .float x => "floating point `" ++ w.float x ++ "`"
  | .str s => "string " ++ Text.quoted s
  | .unit => w.unit
  | .seq => "sequence"
  | .map => "map"
  | .enum => "enum"
  | .other text => text

/-- Why data does not have the expected shape. -/
inductive Mismatch where
  | invalidType (found : Unexpected) (expected : String)
  | invalidValue (found : Unexpected) (expected : String)
  | invalidLength (length : Nat) (expected : String)
  | unknownVariant (name : String) (variants : List String)
  | missingField (name : String)
  | duplicateField (name : String)
  | custom (text : String)
  deriving Inhabited

/-- A list of alternatives: `` `a` ``, `` `a` or `b` ``, or
`` one of `a`, `b`, `c` ``. -/
def oneOf (names : List String) : String :=
  let ticked := names.map fun n => "`" ++ n ++ "`"
  match ticked with
  | [a] => a
  | [a, b] => a ++ " or " ++ b
  | _ => "one of " ++ ", ".intercalate ticked

/-- The message of a mismatch. -/
def Mismatch.message (w : Wording) : Mismatch → String
  | .invalidType found expected =>
      "invalid type: " ++ found.describe w ++ ", expected " ++ expected
  | .invalidValue found expected =>
      "invalid value: " ++ found.describe w ++ ", expected " ++ expected
  | .invalidLength length expected =>
      "invalid length " ++ toString length ++ ", expected " ++ expected
  | .unknownVariant name [] => "unknown variant `" ++ name ++ "`, there are no variants"
  | .unknownVariant name variants =>
      "unknown variant `" ++ name ++ "`, expected " ++ oneOf variants
  | .missingField name => "missing field `" ++ name ++ "`"
  | .duplicateField name => "duplicate field `" ++ name ++ "`"
  | .custom text => text

end CiManifest.Decode
