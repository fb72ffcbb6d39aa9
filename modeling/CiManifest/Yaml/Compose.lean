import CiManifest.Yaml.Document

/-!
# Composing a document's value

Reads a document's events into a node. An alias reads its anchored node again
from where it was defined. A node under a local tag (`!name`) becomes a tagged
node whose content is read as if it had no tag; the keys of a mapping under
such a tag are read that way too.

Limits keep hostile documents small: collections nest at most 128 deep, and a
document reads aliases at most a hundred times per event it has. A mapping
refuses a key it already has, naming the key, before reading the key's value.

Errors about a node carry its mark and its path in the document. A key's own
errors carry the path of its mapping.
-/

namespace CiManifest.Yaml

open Decode

/-- How a key that occurs twice in a mapping is named in the message. -/
def duplicateKeyText (key : Node) : String :=
  "duplicate entry " ++
    match key with
    | .null => "with null key"
    | .bool b => "with key `" ++ toString b ++ "`"
    | .number n => "with key " ++ numberKeyText n
    | .string s => "with key " ++ Text.quoted s
    | _ => "in YAML map"
where
  /-- A number as a key is written: shortest digits, no `+` in exponents. -/
  numberKeyText : Number → String
    | .unsigned n => toString n
    | .negative n => toString n
    | .float x => keyLayout.format ".inf" ".nan" x
  /-- The layout of doubles in key messages. -/
  keyLayout : Decimal.Layout :=
    { scientific := true, positionalLimit := 16, leadingZeroLimit := 5, exponentPlus := false }

/-- The error that stops reading when a document's events run out. -/
def Document.runOut (d : Document) : LoadError :=
  d.error.getD .endOfStream

/-- How many aliases a document may read: a hundred per event it has. -/
def Document.aliasLimit (d : Document) : Nat :=
  d.items.size * 100

/-- Where the value of an entry whose key starts with `item` is: under the key's
text when the key is a scalar, at an unknown key otherwise. -/
def Path.entryValue (path : Path) : Item → Path
  | .scalar _ value _ => .key path value
  | _ => .unknown path

mutual

/-- Reads the node whose first event is at `pos`, at `path`, with `depth`
more collections allowed; `tagged` when the node's tag was taken already.
Returns the node, the position after it and the aliases read so far. -/
def Document.node (d : Document) (fuel : Nat) (path : Path) (depth : Nat) (tagged : Bool)
    (pos jumps : Nat) : Except LoadError (Node × Nat × Nat) :=
  match fuel with
  | 0 => .error .endOfStream
  | fuel + 1 =>
      match d.items[pos]? with
      | none => .error d.runOut
      | some (item, m) =>
          match item with
          | .void => .ok (.null, pos + 1, jumps)
          | .alias id =>
              if jumps + 1 > d.aliasLimit then .error .repetitionLimit
              else
                match d.targets.lookup id with
                | none => .error .endOfStream
                | some target =>
                    match d.node fuel (.alias path) depth false target (jumps + 1) with
                    | .error e => .error e
                    | .ok (node, _, jumps) => .ok (node, pos + 1, jumps)
          | .scalar tag value style =>
              match (if tagged then none else localTag? tag) with
              | some name =>
                  match d.node fuel path depth true pos jumps with
                  | .error e => .error e
                  | .ok (node, next, jumps) => .ok (.tagged name node, next, jumps)
              | none =>
                  match scalarNode (if tagged then none else tag) value style with
                  | .ok node => .ok (node, pos + 1, jumps)
                  | .error e => .error (.mismatch e m path)
          | .sequenceStart tag =>
              match (if tagged then none else localTag? tag) with
              | some name =>
                  match d.node fuel path depth true pos jumps with
                  | .error e => .error e
                  | .ok (node, next, jumps) => .ok (.tagged name node, next, jumps)
              | none =>
                  match depth with
                  | 0 => .error (.recursionLimit m)
                  | depth + 1 =>
                      match d.sequenceItems fuel path depth (pos + 1) jumps #[] with
                      | .error e => .error e
                      | .ok (items, next, jumps) =>
                          match d.items[next]? with
                          | none => .error d.runOut
                          | some _ => .ok (.sequence items, next + 1, jumps)
          | .mappingStart tag =>
              match (if tagged then none else localTag? tag) with
              | some name =>
                  match d.node fuel path depth true pos jumps with
                  | .error e => .error e
                  | .ok (node, next, jumps) => .ok (.tagged name node, next, jumps)
              | none =>
                  match depth with
                  | 0 => .error (.recursionLimit m)
                  | depth + 1 =>
                      match d.mappingEntries fuel path m depth tagged (pos + 1) jumps #[] with
                      | .error e => .error e
                      | .ok (entries, next, jumps) =>
                          match d.items[next]? with
                          | none => .error d.runOut
                          | some _ => .ok (.mapping entries, next + 1, jumps)
          | .sequenceEnd | .mappingEnd => .error .endOfStream

/-- Reads the items of a sequence up to its end event. -/
def Document.sequenceItems (d : Document) (fuel : Nat) (path : Path) (depth : Nat) (pos jumps : Nat)
    (acc : Array Node) : Except LoadError (List Node × Nat × Nat) :=
  match fuel with
  | 0 => .error .endOfStream
  | fuel + 1 =>
      match d.items[pos]? with
      | none => .error d.runOut
      | some (.sequenceEnd, _) | some (.void, _) => .ok (acc.toList, pos, jumps)
      | some _ =>
          match d.node fuel (.index path acc.size) depth false pos jumps with
          | .error e => .error e
          | .ok (node, next, jumps) => d.sequenceItems fuel path depth next jumps (acc.push node)

/-- Reads the entries of a mapping at `mapMark` up to its end event. -/
def Document.mappingEntries (d : Document) (fuel : Nat) (path : Path) (mapMark : Mark) (depth : Nat)
    (tagged : Bool) (pos jumps : Nat) (acc : Array (Node × Node)) :
    Except LoadError (List (Node × Node) × Nat × Nat) :=
  match fuel with
  | 0 => .error .endOfStream
  | fuel + 1 =>
      match d.items[pos]? with
      | none => .error d.runOut
      | some (.mappingEnd, _) | some (.void, _) => .ok (acc.toList, pos, jumps)
      | some (item, _) =>
          match d.node fuel path depth tagged pos jumps with
          | .error e => .error e
          | .ok (key, next, jumps) =>
              match acc.find? (fun entry => entry.1.sameKey key) with
              | some (existing, _) =>
                  .error (.mismatch (.custom (duplicateKeyText existing)) mapMark path)
              | none =>
                  match d.node fuel (path.entryValue item) depth false next jumps with
                  | .error e => .error e
                  | .ok (value, next, jumps) =>
                      d.mappingEntries fuel path mapMark depth tagged next jumps (acc.push (key, value))

end

/-- Enough steps to read any document from its first event at depth 128. A
read goes down at most 128 collections, reads at most `aliasLimit` aliases,
and otherwise moves forward over the events, so every chain of nested reads is
shorter than this (`Document.node_fuel_stable`). -/
def Document.fuel (d : Document) : Nat :=
  4 * (d.items.size + 1) * (d.aliasLimit + 1) * 129

/-- The value of a document, or why it has none. A document ended by an error
fails with it even when its value is complete. -/
def Document.value (d : Document) : Except LoadError Node :=
  match d.node d.fuel .root 128 false 0 0 with
  | .error e => .error e
  | .ok (node, _, _) =>
      match d.error with
      | some e => .error e
      | none => .ok node

end CiManifest.Yaml
