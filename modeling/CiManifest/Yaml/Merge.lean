import CiManifest.Yaml.Node

/-!
# Merge keys

A mapping entry with the key `<<` merges other mappings into its mapping: its
value is a mapping, or a sequence of mappings, whose entries are added when
their key is not there yet, in order, after the existing entries. The `<<`
entry itself is removed by moving the mapping's last entry into its place.

Merging works from the root down, and among siblings from the last to the
first; entries brought in by a merge are merged in turn, but a `<<` inside a
merged mapping is not merged into the outer mapping first. The first value of
the wrong shape stops the work with an error.
-/

namespace CiManifest.Yaml

/-- Why merge keys could not be applied. -/
inductive MergeError where
  | scalarInMerge
  | taggedInMerge
  | scalarInMergeElement
  | sequenceInMergeElement
  deriving Repr, BEq, Inhabited

/-- The message of a merge error. -/
def MergeError.message : MergeError → String
  | .scalarInMerge => "expected a mapping or list of mappings for merging, but found scalar"
  | .taggedInMerge => "unexpected tagged value in merge"
  | .scalarInMergeElement => "expected a mapping for merging, but found scalar"
  | .sequenceInMergeElement => "expected a mapping for merging, but found sequence"

namespace Node

mutual

/-- The number of nodes in a node, itself included. -/
def weight : Node → Nat
  | .sequence items => weightOfItems items + 1
  | .mapping entries => weightOfEntries entries + 1
  | .tagged _ inner => inner.weight + 1
  | _ => 1

/-- The number of nodes in a list of nodes. -/
def weightOfItems : List Node → Nat
  | [] => 0
  | item :: rest => item.weight + weightOfItems rest

/-- The number of nodes in the keys and values of entries. -/
def weightOfEntries : List (Node × Node) → Nat
  | [] => 0
  | (k, v) :: rest => k.weight + v.weight + weightOfEntries rest

end

end Node

/-- The merge key. -/
def mergeKey : Node := .string "<<"

/-- Removes the entry at `i` by moving the last entry into its place. -/
def swapRemove (entries : List (Node × Node)) (i : Nat) : List (Node × Node) :=
  if i + 1 == entries.length then entries.dropLast
  else
    match entries.getLast? with
    | some last => (entries.set i last).dropLast
    | none => entries

/-- Adds the entries of `source` whose key is missing, in order. -/
def insertMissing (entries source : List (Node × Node)) : List (Node × Node) :=
  source.foldl
    (fun acc entry => if acc.any (fun e => e.1.sameKey entry.1) then acc else acc ++ [entry])
    entries

/-- Merges the value of a `<<` entry into the entries. -/
def mergeInto (entries : List (Node × Node)) : Node → Except MergeError (List (Node × Node))
  | .mapping source => .ok (insertMissing entries source)
  | .sequence items =>
      items.foldlM
        (fun acc item =>
          match item with
          | .mapping source => .ok (insertMissing acc source)
          | .sequence _ => .error .sequenceInMergeElement
          | .tagged _ _ => .error .taggedInMerge
          | _ => .error .scalarInMergeElement)
        entries
  | .tagged _ _ => .error .taggedInMerge
  | _ => .error .scalarInMerge

/-- Applies the merge key of one mapping's entries. -/
def mergeEntries (entries : List (Node × Node)) : Except MergeError (List (Node × Node)) :=
  match entries.findIdx? (fun e => e.1.sameKey mergeKey) with
  | none => .ok entries
  | some i =>
      match entries[i]? with
      | some (_, value) => mergeInto (swapRemove entries i) value
      | none => .ok entries

/-- Applies merge keys through a node, with at most `fuel` levels. -/
def applyMergeWith : Nat → Node → Except MergeError Node
  | 0, v => .ok v
  | fuel + 1, .mapping entries => do
      let entries ← mergeEntries entries
      let values ← entries.reverse.foldlM
        (fun acc entry => do
          let value ← applyMergeWith fuel entry.2
          pure ((entry.1, value) :: acc))
        []
      pure (.mapping values)
  | fuel + 1, .sequence items => do
      let items ← items.reverse.foldlM
        (fun acc item => do
          let item ← applyMergeWith fuel item
          pure (item :: acc))
        []
      pure (.sequence items)
  | fuel + 1, .tagged tag inner => do
      pure (.tagged tag (← applyMergeWith fuel inner))
  | _ + 1, v => .ok v

/-- Applies merge keys through a node. -/
def Node.applyMerge (v : Node) : Except MergeError Node :=
  applyMergeWith v.weight v

end CiManifest.Yaml
