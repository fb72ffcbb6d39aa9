import CiManifest.Number

/-!
# JSON values

A JSON number keeps the class a reader gives it (see `CiManifest.Number`).
Objects keep
their fields in the order they are built, so a printer writes them in that
order.
-/

namespace CiManifest.Json

/-- A JSON value. -/
inductive Value where
  | null
  | bool (value : Bool)
  | number (value : Number)
  | string (value : String)
  | array (items : List Value)
  | object (fields : List (String × Value))
  deriving Inhabited

namespace Value

/-- An unsigned integer value. -/
def nat (n : Nat) : Value :=
  .number (.unsigned n)

/-- An integer value, classified by its sign. -/
def int (n : Int) : Value :=
  .number (Number.ofInt n)

/-- A string value, or `null` when absent. -/
def optString : Option String → Value
  | some s => .string s
  | none => .null

/-- An unsigned integer value, or `null` when absent. -/
def optNat : Option Nat → Value
  | some n => .nat n
  | none => .null

/-- The value of the last field named `key` of an object. -/
def field? (v : Value) (key : String) : Option Value :=
  match v with
  | .object fields => (fields.reverse.find? (fun entry => entry.1 == key)).map Prod.snd
  | _ => none

end Value

/-- The fields of an object with one entry per key, the last one given, in
increasing key order. This is how a reader that stores objects in a sorted map
sees them. -/
def sortedFields (fields : List (String × Value)) : List (String × Value) :=
  let kept := fields.foldl
    (fun acc entry => (acc.filter fun other => other.1 != entry.1) ++ [entry]) []
  kept.mergeSort (fun a b => decide (a.1 ≤ b.1))

end CiManifest.Json
