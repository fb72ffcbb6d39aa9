import CiManifest.Yaml.Node
import CiManifest.Json.Printer

/-!
# Nodes and JSON

JSON data reads as nodes directly: objects become mappings with text keys.

Writing a node as JSON needs text keys. A text key stays, a boolean or integer
key is written as its text, a finite double as its shortest digits; a null,
sequence, mapping or tagged key cannot be written. A double that is not finite
is written as `null`, and a tagged node as a one-entry object from `!tag` to
its value. When two keys end up with the same text, the later one wins.
-/

namespace CiManifest.Yaml

/-- Why a node cannot be written as JSON. -/
inductive EncodeError where
  | keyMustBeAString
  | floatKeyMustBeFinite
  deriving Repr, BEq

/-- The message of an encoding error. -/
def EncodeError.message : EncodeError → String
  | .keyMustBeAString => "key must be a string"
  | .floatKeyMustBeFinite => "float key must be finite"

namespace Node

mutual

/-- The node that a JSON value reads as. -/
def ofJson : Json.Value → Node
  | .null => .null
  | .bool b => .bool b
  | .number n => .number n
  | .string s => .string s
  | .array items => .sequence (ofJsonItems items)
  | .object fields => .mapping (ofJsonFields fields)

/-- The nodes of JSON array items. -/
def ofJsonItems : List Json.Value → List Node
  | [] => []
  | v :: rest => ofJson v :: ofJsonItems rest

/-- The entries of JSON object fields, with text keys. -/
def ofJsonFields : List (String × Json.Value) → List (Node × Node)
  | [] => []
  | (k, v) :: rest => (.string k, ofJson v) :: ofJsonFields rest

end

/-- The text a node takes as a JSON object key. -/
def keyText : Node → Except EncodeError String
  | .string s => .ok s
  | .bool b => .ok (if b then "true" else "false")
  | .number (.unsigned n) => .ok (toString n)
  | .number (.negative n) => .ok (toString n)
  | .number (.float x) =>
      if x.isNaN || x.isInf then .error .floatKeyMustBeFinite
      else .ok (Json.numberLayout.format "inf" "NaN" x)
  | _ => .error .keyMustBeAString

/-- A JSON number; a double that is not finite becomes `null`. -/
def numberJson : Number → Json.Value
  | .float x => if x.isNaN || x.isInf then .null else .number (.float x)
  | n => .number n

mutual

/-- The JSON form of a node. -/
def toJson : Node → Except EncodeError Json.Value
  | .null => .ok .null
  | .bool b => .ok (.bool b)
  | .number n => .ok (numberJson n)
  | .string s => .ok (.string s)
  | .sequence items => (itemsJson items).map .array
  | .mapping entries => (entriesJson entries).map fun fields => .object (Json.sortedFields fields)
  | .tagged tag v => (toJson v).map fun j => .object [("!" ++ tag, j)]

/-- The JSON forms of sequence items. -/
def itemsJson : List Node → Except EncodeError (List Json.Value)
  | [] => .ok []
  | n :: rest =>
      match toJson n with
      | .error e => .error e
      | .ok j => (itemsJson rest).map (j :: ·)

/-- The JSON fields of mapping entries. -/
def entriesJson : List (Node × Node) → Except EncodeError (List (String × Json.Value))
  | [] => .ok []
  | (k, v) :: rest =>
      match keyText k with
      | .error e => .error e
      | .ok key =>
          match toJson v with
          | .error e => .error e
          | .ok j => (entriesJson rest).map ((key, j) :: ·)

end

end Node

end CiManifest.Yaml
