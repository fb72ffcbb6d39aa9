import CiManifest.Decode.Mismatch
import CiManifest.Yaml.Node

/-!
# Decoders

A decoder reads a typed value out of a node. Primitive decoders accept one shape
each; lists and string maps decode their parts in order and stop at the first
mismatch. A record is read from a mapping, entry by entry in document order:
a key names a field (by name, by alias, or by its position as an unsigned
integer), unknown keys are skipped, and a field named twice is a mismatch.
A record can also be read from a sequence, one element per field in order.

The first mismatch met, in document order, is the one reported.
-/

namespace CiManifest.Decode

open CiManifest.Yaml

/-- How a reader ends a record read from a sequence with elements left over. -/
inductive SequenceEnd where
  /-- The count expected is the number of fields read. -/
  | exact
  /-- The reader asks for fewer elements. -/
  | fewer
  deriving Repr, BEq

/-- The mismatch for a record sequence of `total` elements of which `used` were read. -/
def SequenceEnd.mismatch : SequenceEnd → Nat → Nat → Mismatch
  | .exact, total, used =>
      .invalidLength total
        (if used == 1 then "1 element in sequence" else toString used ++ " elements in sequence")
  | .fewer, total, _ => .invalidLength total "fewer elements in array"

/-- A decoder of `α`, given how records read from sequences end. -/
abbrev Decoder (α : Type) := SequenceEnd → Node → Except Mismatch α

/-- What a node looks like to a mismatch. -/
def unexpected : Node → Unexpected
  | .null => .unit
  | .bool b => .bool b
  | .number (.unsigned n) => .unsigned n
  | .number (.negative n) => .signed n
  | .number (.float x) => .float x
  | .string s => .str s
  | .sequence _ => .seq
  | .mapping _ => .map
  | .tagged _ _ => .enum

/-- A text. -/
def string : Decoder String := fun _ node =>
  match node with
  | .string s => .ok s
  | other => .error (.invalidType (unexpected other) "a string")

/-- A boolean. -/
def bool : Decoder Bool := fun _ node =>
  match node with
  | .bool b => .ok b
  | other => .error (.invalidType (unexpected other) "a boolean")

/-- An unsigned integer below `2^bits`, named `name` in mismatches. -/
def unsignedBelow (bits : Nat) (name : String) (node : Node) : Except Mismatch Nat :=
  match node with
  | .number (.unsigned n) =>
      if n < Nat.pow 2 bits then .ok n else .error (.invalidValue (.unsigned n) name)
  | .number (.negative n) => .error (.invalidValue (.signed n) name)
  | other => .error (.invalidType (unexpected other) name)

/-- A 64-bit unsigned integer. -/
def u64 : Decoder UInt64 := fun _ node =>
  (unsignedBelow 64 "u64" node).map Nat.toUInt64

/-- A 16-bit unsigned integer. -/
def u16 : Decoder UInt16 := fun _ node =>
  (unsignedBelow 16 "u16" node).map Nat.toUInt16

/-- An optional value: null is absent. -/
def option {α : Type} (d : Decoder α) : Decoder (Option α) := fun style node =>
  match node with
  | .null => .ok none
  | other => (d style other).map some

/-- Decodes each element, stopping at the first mismatch. -/
def mapEach {α : Type} (d : Node → Except Mismatch α) : List Node → Except Mismatch (List α)
  | [] => .ok []
  | n :: rest =>
      match d n with
      | .error e => .error e
      | .ok a => (mapEach d rest).map (a :: ·)

/-- A sequence of values. -/
def list {α : Type} (d : Decoder α) : Decoder (List α) := fun style node =>
  match node with
  | .sequence items => mapEach (d style) items
  | other => .error (.invalidType (unexpected other) "a sequence")

/-- A string map with `value` at `key`, replacing an earlier value, in
increasing key order. -/
def insertKey {α : Type} (key : String) (value : α) : List (String × α) → List (String × α)
  | [] => [(key, value)]
  | (k, v) :: rest =>
      if key == k then (key, value) :: rest
      else if key < k then (key, value) :: (k, v) :: rest
      else (k, v) :: insertKey key value rest

/-- Decodes entries with text keys into a sorted map. -/
def insertEach {α : Type} (d : Node → Except Mismatch α) :
    List (String × α) → List (Node × Node) → Except Mismatch (List (String × α))
  | acc, [] => .ok acc
  | acc, (k, v) :: rest =>
      match k with
      | .string key =>
          match d v with
          | .error e => .error e
          | .ok a => insertEach d (insertKey key a acc) rest
      | other => .error (.invalidType (unexpected other) "a string")

/-- A map from texts to values, one value per key, in increasing key order. -/
def stringMap {α : Type} (d : Decoder α) : Decoder (List (String × α)) := fun style node =>
  match node with
  | .mapping entries => insertEach (d style) [] entries
  | other => .error (.invalidType (unexpected other) "a map")

/-- Any node, as it is. -/
def node : Decoder Node := fun _ n => .ok n

/-- A field of a record being filled in: its name and aliases, whether it must
be present, and how a node updates the record. -/
structure Field (σ : Type) where
  names : List String
  required : Bool := false
  set : SequenceEnd → Node → σ → Except Mismatch σ

/-- A field whose value is decoded by `d` and stored by `store`. -/
def Field.of {σ α : Type} (names : List String) (d : Decoder α) (store : α → σ → σ) : Field σ :=
  { names, set := fun style n s => (d style n).map (store · s) }

/-- A field made by `Field.of` stores what its decoder reads. -/
theorem Field.of_set_of_ok {σ α : Type} {names : List String} {d : Decoder α}
    {store : α → σ → σ} {style : SequenceEnd} {n : Node} {a : α} (read : d style n = .ok a)
    (s : σ) : (Field.of names d store).set style n s = .ok (store a s) := by
  simp only [Field.of, read]
  rfl

@[simp]
theorem Field.of_required {σ α : Type} (names : List String) (d : Decoder α) (store : α → σ → σ) :
    (Field.of names d store).required = false :=
  rfl

theorem Field.of_set_eq_ok_iff {σ α : Type} {names : List String} {d : Decoder α}
    {store : α → σ → σ} {style : SequenceEnd} {n : Node} {s s' : σ} :
    (Field.of names d store).set style n s = .ok s' ↔ ∃ a, d style n = .ok a ∧ store a s = s' := by
  cases read : d style n with
  | error e => simp [Field.of, read, Except.map]
  | ok a => simp [Field.of, read, Except.map]

/-- The field that a key names: by one of its names, or by its position for an
unsigned integer key. Other keys are skipped; a key of another kind is a
mismatch. -/
def fieldIndex {σ : Type} (fields : List (Field σ)) (key : Node) :
    Except Mismatch (Option Nat) :=
  match key with
  | .string s => .ok (fields.findIdx? (fun f => f.names.contains s))
  | .number (.unsigned n) => .ok (if n < fields.length then some n else none)
  | other => .error (.invalidType (unexpected other) "field identifier")

/-- The first name of the field at `i`. -/
def fieldName {σ : Type} (fields : List (Field σ)) (i : Nat) : String :=
  match fields[i]? with
  | some f => f.names.headD ""
  | none => ""

/-- Fills a record from mapping entries, in order. -/
def fillEntries {σ : Type} (style : SequenceEnd) (fields : List (Field σ)) :
    σ × List Nat → List (Node × Node) → Except Mismatch (σ × List Nat)
  | acc, [] => .ok acc
  | (s, seen), (k, v) :: rest =>
      match fieldIndex fields k with
      | .error e => .error e
      | .ok none => fillEntries style fields (s, seen) rest
      | .ok (some i) =>
          if seen.contains i then .error (.duplicateField (fieldName fields i))
          else
            match fields[i]? with
            | none => fillEntries style fields (s, seen) rest
            | some f =>
                match f.set style v s with
                | .error e => .error e
                | .ok s' => fillEntries style fields (s', i :: seen) rest

@[simp]
theorem fillEntries_nil {σ : Type} (style : SequenceEnd) (fields : List (Field σ))
    (acc : σ × List Nat) : fillEntries style fields acc [] = .ok acc := by
  obtain ⟨s, seen⟩ := acc
  rfl

/-- An entry whose key names a field not given before sets that field, then
the rest is read. -/
theorem fillEntries_cons_fresh {σ : Type} {style : SequenceEnd} {fields : List (Field σ)}
    {s : σ} {seen : List Nat} {k v : Node} {rest : List (Node × Node)} {i : Nat} {f : Field σ}
    (index : fieldIndex fields k = .ok (some i)) (fresh : i ∉ seen) (field : fields[i]? = some f) :
    fillEntries style fields (s, seen) ((k, v) :: rest) =
      (f.set style v s).bind fun s₁ => fillEntries style fields (s₁, i :: seen) rest := by
  have notSeen : seen.contains i = false := by simpa using fresh
  rw [fillEntries, index]
  simp only [notSeen, field]
  cases f.set style v s <;> rfl

/-- The first required field that was not given. -/
def missingRequired {σ : Type} (fields : List (Field σ)) (seen : List Nat) : Option String :=
  ((fields.zipIdx).find? (fun (f, i) => f.required && !seen.contains i)).map
    (fun (f, _) => f.names.headD "")

/-- Fills a record from sequence elements, one per field in order; a missing
element of a required field is a mismatch. -/
def fillItems {σ : Type} (style : SequenceEnd) (name : String) (count : Nat) :
    List (Field σ) → Nat → σ → List Node → Except Mismatch σ
  | [], _, s, _ => .ok s
  | f :: rest, i, s, items =>
      match items with
      | [] =>
          if f.required then
            .error (.invalidLength i
              ("struct " ++ name ++ " with " ++ toString count ++ " elements"))
          else fillItems style name count rest (i + 1) s []
      | n :: more =>
          match f.set style n s with
          | .error e => .error e
          | .ok s' => fillItems style name count rest (i + 1) s' more

@[simp]
theorem fillItems_nil {σ : Type} (style : SequenceEnd) (name : String) (count i : Nat) (s : σ)
    (items : List Node) : fillItems style name count [] i s items = .ok s :=
  rfl

theorem fillItems_cons_nil {σ : Type} (style : SequenceEnd) (name : String) (count i : Nat)
    (f : Field σ) (rest : List (Field σ)) (s : σ) :
    fillItems style name count (f :: rest) i s [] =
      if f.required then
        .error (.invalidLength i ("struct " ++ name ++ " with " ++ toString count ++ " elements"))
      else fillItems style name count rest (i + 1) s [] :=
  rfl

theorem fillItems_cons_cons {σ : Type} (style : SequenceEnd) (name : String) (count i : Nat)
    (f : Field σ) (rest : List (Field σ)) (s : σ) (n : Node) (more : List Node) :
    fillItems style name count (f :: rest) i s (n :: more) =
      (f.set style n s).bind fun s' => fillItems style name count rest (i + 1) s' more := by
  rw [fillItems]
  cases f.set style n s <;> rfl

/-- A record named `name` with the given fields, starting from `init`. -/
def record {σ : Type} (name : String) (fields : List (Field σ)) (init : σ) : Decoder σ :=
  fun style node =>
    match node with
    | .mapping entries =>
        match fillEntries style fields (init, []) entries with
        | .error e => .error e
        | .ok (s, seen) =>
            match missingRequired fields seen with
            | some field => .error (.missingField field)
            | none => .ok s
    | .sequence items =>
        match fillItems style name fields.length fields 0 init items with
        | .error e => .error e
        | .ok s =>
            if items.length > fields.length then
              .error (style.mismatch items.length fields.length)
            else .ok s
    | other => .error (.invalidType (unexpected other) ("struct " ++ name))

/-- The message that a node inside data read for a tagged choice carries a
local tag. -/
def taggedInsideMessage : String :=
  "untagged and internally tagged enums do not support enum input"

/-- Checks that no node of the tree carries a local tag, in document order. -/
def untaggedTree : Node → Except Mismatch Unit
  | .tagged _ _ => .error (.custom taggedInsideMessage)
  | .sequence items => untaggedItems items
  | .mapping entries => untaggedEntries entries
  | _ => .ok ()
where
  untaggedItems : List Node → Except Mismatch Unit
    | [] => .ok ()
    | n :: rest =>
        match untaggedTree n with
        | .error e => .error e
        | .ok () => untaggedItems rest
  untaggedEntries : List (Node × Node) → Except Mismatch Unit
    | [] => .ok ()
    | (k, v) :: rest =>
        match untaggedTree k with
        | .error e => .error e
        | .ok () =>
            match untaggedTree v with
            | .error e => .error e
            | .ok () => untaggedEntries rest

/-- The variant a text names among `variants`. -/
def variantIndex (variants : List String) (node : Node) : Except Mismatch Nat :=
  match node.untag with
  | .string s =>
      match variants.findIdx? (· == s) with
      | some i => .ok i
      | none => .error (.unknownVariant s variants)
  | other => .error (.invalidType (unexpected other) "variant identifier")

/-- Splits the data of a choice tagged by the entry `tagName`: the variant
named by the tag, and the remaining entries, which must carry no local tags.
A sequence gives the tag first and the rest after it. -/
def splitTagged (tagName enumName : String) (variants : List String) (node : Node) :
    Except Mismatch (Nat × Node) :=
  match node with
  | .mapping entries =>
      let rec go : Option Nat → List (Node × Node) → List (Node × Node) →
          Except Mismatch (Option Nat × List (Node × Node))
        | tag, kept, [] => .ok (tag, kept.reverse)
        | tag, kept, (k, v) :: rest =>
            match k with
            | .string s =>
                if s == tagName then
                  if tag.isSome then .error (.duplicateField tagName)
                  else
                    match variantIndex variants v with
                    | .error e => .error e
                    | .ok i => go (some i) kept rest
                else
                  match untaggedTree v with
                  | .error e => .error e
                  | .ok () => go tag ((k, v) :: kept) rest
            | _ =>
                match untaggedTree k with
                | .error e => .error e
                | .ok () =>
                    match untaggedTree v with
                    | .error e => .error e
                    | .ok () => go tag ((k, v) :: kept) rest
      match go none [] entries with
      | .error e => .error e
      | .ok (none, _) => .error (.missingField tagName)
      | .ok (some i, kept) => .ok (i, .mapping kept)
  | .sequence [] => .error (.missingField tagName)
  | .sequence (first :: rest) =>
      match variantIndex variants first with
      | .error e => .error e
      | .ok i =>
          match untaggedTree (.sequence rest) with
          | .error e => .error e
          | .ok () => .ok (i, .sequence rest)
  | other => .error (.invalidType (unexpected other) ("internally tagged enum " ++ enumName))

end CiManifest.Decode
