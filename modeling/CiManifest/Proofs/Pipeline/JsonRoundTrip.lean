import Mathlib.Data.List.Forall2
import Mathlib.Data.String.Basic
import CiManifest.Pipeline.Decode
import CiManifest.Pipeline.Encode
import CiManifest.Proofs.Decode.Records

/-!
# Resources through JSON and back

Writing a resource as JSON (`Resource.toJson`) and reading the data back
(`decodeResource` over the nodes the JSON denotes) gives the resource again:
the `kind` tag, the renamed fields, volumes without their absent backings, an
absent build as `null`, both forms of a port, and every defaulted field.

What JSON cannot hold is the environment's YAML: a node comes back only when it
carries no local tag, its doubles are finite and its mappings are keyed by
distinct texts (`Node.JsonShaped`). Such a mapping is written as a JSON object,
whose keys are in increasing order, so it comes back as the same YAML value
(`Node.sameKey`, which ignores the order of a mapping's entries) and not always
as the same list; `Resource.Agrees` states the round trip up to that. The
string maps of a resource keep one entry per key in increasing key order, as
every map a reader builds does (`SortedKeys`).

The reading side runs on a node tree, so the proofs go through it: a JSON
object reads as a mapping with text keys (`Node.ofJson`), a record is filled
from such a mapping field by field, and a map from its entries in order.
-/

namespace CiManifest

/-- Related lists pair each member of the first with one of the second. -/
theorem forall₂_exists_of_mem {α β : Type} {R : α → β → Prop} {l₁ : List α} {l₂ : List β}
    (related : List.Forall₂ R l₁ l₂) {a : α} (mem : a ∈ l₁) : ∃ b ∈ l₂, R a b := by
  induction related with
  | nil => simp at mem
  | cons head _ ih =>
      rcases List.mem_cons.mp mem with rfl | later
      · exact ⟨_, List.mem_cons_self, head⟩
      · obtain ⟨b, member, rel⟩ := ih later
        exact ⟨b, List.mem_cons_of_mem _ member, rel⟩

/-- Related lists of entries whose related members share their key have the
same keys. -/
theorem map_fst_eq_of_forall₂ {β γ : Type} {R : String × β → String × γ → Prop}
    {xs : List (String × β)} {ys : List (String × γ)} (related : List.Forall₂ R xs ys)
    (sameKey : ∀ x y, R x y → x.1 = y.1) : xs.map Prod.fst = ys.map Prod.fst := by
  induction related with
  | nil => rfl
  | cons head _ ih => simp [sameKey _ _ head, ih]

/-! ## JSON objects -/

namespace Json

/-- Keeping the last field of each name drops, from what came before, the
fields that a later one names again. -/
theorem foldl_keepLast (acc fields : List (String × Value))
    (distinct : (fields.map Prod.fst).Nodup) :
    fields.foldl (fun acc entry => (acc.filter fun other => other.1 != entry.1) ++ [entry]) acc =
      acc.filter (fun other => !(fields.map Prod.fst).contains other.1) ++ fields := by
  induction fields generalizing acc with
  | nil => simp
  | cons field rest ih =>
      obtain ⟨fresh, distinctRest⟩ := List.nodup_cons.mp distinct
      rw [List.foldl_cons, ih _ distinctRest, List.filter_append, List.filter_filter]
      have kept : ([field].filter fun other => !(rest.map Prod.fst).contains other.1) = [field] := by
        simpa using fresh
      rw [kept]
      simp only [List.append_assoc, List.singleton_append, List.map_cons, List.contains_cons]
      congr 2
      funext other
      by_cases same : other.1 = field.1 <;> simp [same, bne, Bool.and_comm]

/-- Fields with distinct names are only reordered by sorting. -/
theorem sortedFields_perm (fields : List (String × Value)) (distinct : (fields.map Prod.fst).Nodup) :
    (sortedFields fields).Perm fields := by
  unfold sortedFields
  have kept := foldl_keepLast [] fields distinct
  simp only [List.filter_nil, List.nil_append] at kept
  rw [kept]
  exact List.mergeSort_perm _ _

end Json

/-! ## Nodes that JSON holds -/

namespace Yaml.Node

/-- A node that JSON data holds: no local tag at any depth, every double
finite, and every mapping keyed by distinct texts. -/
inductive JsonShaped : Node → Prop
  | null : JsonShaped .null
  | bool (b : Bool) : JsonShaped (.bool b)
  | unsigned (n : Nat) : JsonShaped (.number (.unsigned n))
  | negative (n : Int) : JsonShaped (.number (.negative n))
  | float {x : Float} : x.isNaN = false → x.isInf = false → JsonShaped (.number (.float x))
  | string (s : String) : JsonShaped (.string s)
  | sequence {items : List Node} : (∀ n ∈ items, JsonShaped n) → JsonShaped (.sequence items)
  | mapping {entries : List (String × Node)} : (entries.map Prod.fst).Nodup →
      (∀ e ∈ entries, JsonShaped e.2) →
      JsonShaped (.mapping (entries.map fun e => (.string e.1, e.2)))

theorem ofJsonItems_eq_map (items : List Json.Value) : ofJsonItems items = items.map ofJson := by
  induction items with
  | nil => rfl
  | cons j rest ih => simp [ofJsonItems, ih]

theorem ofJsonFields_eq_map (fields : List (String × Json.Value)) :
    ofJsonFields fields = fields.map fun f => (.string f.1, ofJson f.2) := by
  induction fields with
  | nil => rfl
  | cons f rest ih => simp [ofJsonFields, ih]

theorem hasEntry_eq_true_iff (k v : Node) (entries : List (Node × Node)) :
    hasEntry k v entries = true ↔ ∃ e ∈ entries, k.sameKey e.1 = true ∧ v.sameKey e.2 = true := by
  induction entries with
  | nil => simp [hasEntry]
  | cons e rest ih =>
      obtain ⟨key, value⟩ := e
      simp [hasEntry, ih]

theorem coveredBy_eq_true_iff (entries other : List (Node × Node)) :
    coveredBy entries other = true ↔ ∀ e ∈ entries, hasEntry e.1 e.2 other = true := by
  induction entries with
  | nil => simp [coveredBy]
  | cons e rest ih =>
      obtain ⟨key, value⟩ := e
      simp [coveredBy, ih]

theorem sameItems_eq_true_iff (items other : List Node) :
    sameItems items other = true ↔ List.Forall₂ (fun a b => a.sameKey b = true) items other := by
  induction items generalizing other with
  | nil => cases other <;> simp [sameItems]
  | cons a rest ih => cases other <;> simp [sameItems, ih]

/-- Items written one by one, each read back as the same node. -/
theorem itemsJson_of_each {items : List Node}
    (each : ∀ n ∈ items, ∃ j, n.toJson = .ok j ∧ (ofJson j).sameKey n = true) :
    ∃ js, itemsJson items = .ok js ∧
      List.Forall₂ (fun j n => (ofJson j).sameKey n = true) js items := by
  induction items with
  | nil => exact ⟨[], rfl, .nil⟩
  | cons n rest ih =>
      obtain ⟨j, written, same⟩ := each n List.mem_cons_self
      obtain ⟨js, writtenRest, sameRest⟩ := ih fun m mem => each m (List.mem_cons_of_mem _ mem)
      exact ⟨j :: js, by simp [itemsJson, written, writtenRest, Except.map], .cons same sameRest⟩

/-- Entries with text keys written one by one, each value read back as the
same node. -/
theorem entriesJson_of_each {entries : List (String × Node)}
    (each : ∀ e ∈ entries, ∃ j, e.2.toJson = .ok j ∧ (ofJson j).sameKey e.2 = true) :
    ∃ fields, entriesJson (entries.map fun e => (.string e.1, e.2)) = .ok fields ∧
      List.Forall₂ (fun f e => f.1 = e.1 ∧ (ofJson f.2).sameKey e.2 = true) fields entries := by
  induction entries with
  | nil => exact ⟨[], rfl, .nil⟩
  | cons e rest ih =>
      obtain ⟨j, written, same⟩ := each e List.mem_cons_self
      obtain ⟨fields, writtenRest, sameRest⟩ := ih fun m mem => each m (List.mem_cons_of_mem _ mem)
      refine ⟨(e.1, j) :: fields, ?_, .cons ⟨rfl, same⟩ sameRest⟩
      simp [entriesJson, keyText, written, writtenRest, Except.map]

/-- A mapping written as a JSON object reads back with the same entries, in
the object's order. -/
theorem sameKey_ofJson_object {entries : List (String × Node)} {fields : List (String × Json.Value)}
    (distinct : (entries.map Prod.fst).Nodup)
    (same : List.Forall₂ (fun f e => f.1 = e.1 ∧ (ofJson f.2).sameKey e.2 = true) fields entries) :
    (ofJson (.object (Json.sortedFields fields))).sameKey
      (.mapping (entries.map fun e => (.string e.1, e.2))) = true := by
  have keys := map_fst_eq_of_forall₂ same fun _ _ named => named.1
  have perm := Json.sortedFields_perm fields (keys ▸ distinct)
  simp only [ofJson, ofJsonFields_eq_map, sameKey, List.length_map, Bool.and_eq_true, beq_iff_eq]
  refine ⟨perm.length_eq.trans same.length_eq, ?_⟩
  -- each entry read back has its key among the original entries, with the same value
  rw [coveredBy_eq_true_iff]
  intro e mem
  obtain ⟨f, fromSorted, rfl⟩ := List.mem_map.mp mem
  obtain ⟨entry, member, sameName, sameValue⟩ :=
    forall₂_exists_of_mem same (perm.mem_iff.mp fromSorted)
  rw [hasEntry_eq_true_iff]
  exact ⟨(.string entry.1, entry.2), List.mem_map_of_mem member, by simp [sameKey, sameName],
    sameValue⟩

/-- A node that JSON holds is written, and reads back as the same node. -/
theorem JsonShaped.toJson_sameKey {n : Node} (shaped : n.JsonShaped) :
    ∃ j, n.toJson = .ok j ∧ (ofJson j).sameKey n = true := by
  induction shaped with
  | null => exact ⟨.null, rfl, by simp [ofJson, sameKey]⟩
  | bool b => exact ⟨.bool b, rfl, by simp [ofJson, sameKey]⟩
  | unsigned n => exact ⟨.number (.unsigned n), rfl, by simp [ofJson, sameKey]⟩
  | negative n => exact ⟨.number (.negative n), rfl, by simp [ofJson, sameKey]⟩
  | @float x notNaN finite =>
      refine ⟨.number (.float x), ?_, by simp [ofJson, sameKey]⟩
      rw [toJson, numberJson, notNaN, finite]
      rfl
  | string s => exact ⟨.string s, rfl, by simp [ofJson, sameKey]⟩
  | sequence _ ih =>
      obtain ⟨js, written, same⟩ := itemsJson_of_each ih
      refine ⟨.array js, by simp [toJson, written, Except.map], ?_⟩
      simpa [ofJson, sameKey, sameItems_eq_true_iff, ofJsonItems_eq_map, List.forall₂_map_left_iff]
        using same
  | mapping distinct _ ih =>
      obtain ⟨fields, written, same⟩ := entriesJson_of_each ih
      exact ⟨_, by simp [toJson, written, Except.map], sameKey_ofJson_object distinct same⟩

end Yaml.Node

/-! ## Reading JSON data -/

namespace Decode

open Yaml

mutual

/-- JSON data carries no local tags. -/
theorem untaggedTree_ofJson : (j : Json.Value) → untaggedTree (Node.ofJson j) = .ok ()
  | .null | .bool _ | .number _ | .string _ => rfl
  | .array items => by
      rw [Node.ofJson, untaggedTree]
      exact untaggedItems_ofJsonItems items
  | .object fields => by
      rw [Node.ofJson, untaggedTree]
      exact untaggedEntries_ofJsonFields fields

theorem untaggedItems_ofJsonItems :
    (items : List Json.Value) → untaggedTree.untaggedItems (Node.ofJsonItems items) = .ok ()
  | [] => rfl
  | j :: rest => by
      rw [Node.ofJsonItems, untaggedTree.untaggedItems, untaggedTree_ofJson j]
      exact untaggedItems_ofJsonItems rest

theorem untaggedEntries_ofJsonFields :
    (fields : List (String × Json.Value)) →
      untaggedTree.untaggedEntries (Node.ofJsonFields fields) = .ok ()
  | [] => rfl
  | (_, j) :: rest => by
      rw [Node.ofJsonFields, untaggedTree.untaggedEntries]
      simp only [untaggedTree, untaggedTree_ofJson j]
      exact untaggedEntries_ofJsonFields rest

end

theorem unsignedBelow_of_lt {bits n : Nat} (name : String) (bound : n < 2 ^ bits) :
    unsignedBelow bits name (.number (.unsigned n)) = .ok n := by
  simp [unsignedBelow, bound]

theorem u16_unsigned (style : SequenceEnd) (p : UInt16) :
    u16 style (.number (.unsigned p.toNat)) = .ok p := by
  simp only [u16, unsignedBelow_of_lt "u16" p.toNat_lt]
  simp [Except.map]

theorem u64_unsigned (style : SequenceEnd) (p : UInt64) :
    u64 style (.number (.unsigned p.toNat)) = .ok p := by
  simp only [u64, unsignedBelow_of_lt "u64" p.toNat_lt]
  simp [Except.map]

/-- An optional number written as `null` or as the number reads back when the
number does. -/
theorem option_ofJson_optNat {β : Type} {d : Decoder β} {style : SequenceEnd} (toNat : β → Nat)
    (read : ∀ p, d style (.number (.unsigned (toNat p))) = .ok p) (p : Option β) :
    option d style (Node.ofJson (.optNat (p.map toNat))) = .ok p := by
  cases p with
  | none => rfl
  | some p => simp [option, Json.Value.optNat, Json.Value.nat, Node.ofJson, read, Except.map]

/-- Anything but `null` is a present value. -/
theorem option_of_ne_null {α : Type} (d : Decoder α) (style : SequenceEnd) {n : Node}
    (present : n ≠ .null) : option d style n = (d style n).map some := by
  cases n with
  | null => contradiction
  | _ => rfl

/-- An object is present, so an optional value written as one reads back when
the value does. -/
theorem option_object_of_ok {α : Type} {d : Decoder α} {style : SequenceEnd}
    {fs : List (String × Json.Value)} {x : α} (read : d style (Node.ofJson (.object fs)) = .ok x) :
    option d style (Node.ofJson (.object fs)) = .ok (some x) := by
  rw [option_of_ne_null _ _ Node.noConfusion, read]
  rfl

theorem option_string_ofJson (style : SequenceEnd) (s : Option String) :
    option string style (Node.ofJson (.optString s)) = .ok s := by
  cases s <;> rfl

variable {α : Type}

theorem mapEach_eq_ok {d : Node → Except Mismatch α} {nodes : List Node} {values : List α}
    (each : List.Forall₂ (fun n a => d n = .ok a) nodes values) : mapEach d nodes = .ok values := by
  induction each with
  | nil => rfl
  | cons head _ ih => simp [mapEach, head, ih, Except.map]

/-- A list written item by item reads back when each item does. -/
theorem list_ofJsonItems {d : Decoder α} {style : SequenceEnd} {encode : α → Json.Value}
    (xs : List α) (each : ∀ x ∈ xs, d style (Node.ofJson (encode x)) = .ok x) :
    list d style (.sequence (Node.ofJsonItems (xs.map encode))) = .ok xs := by
  simp only [Node.ofJsonItems_eq_map, list]
  apply mapEach_eq_ok
  simpa [List.forall₂_map_left_iff, List.forall₂_same] using each

theorem list_string_texts (style : SequenceEnd) (xs : List String) :
    list string style (Node.ofJson (textsJson xs)) = .ok xs :=
  list_ofJsonItems xs fun _ _ => rfl

theorem insertKey_of_lt {key : String} {value : α} {acc : List (String × α)}
    (above : ∀ e ∈ acc, e.1 < key) : insertKey key value acc = acc ++ [(key, value)] := by
  induction acc with
  | nil => rfl
  | cons e rest ih =>
      obtain ⟨k, v⟩ := e
      have less : k < key := above (k, v) List.mem_cons_self
      have differ : (key == k) = false := by simpa using ne_of_gt less
      have notBelow : ¬key < k := not_lt_of_gt less
      simp [insertKey, differ, notBelow, ih fun e mem => above e (List.mem_cons_of_mem _ mem)]

/-- Entries with increasing text keys fill a sorted map in the order they
come. -/
theorem insertEach_sorted {d : Node → Except Mismatch α} {entries : List (String × Node)}
    {values : List (String × α)} (acc : List (String × α))
    (sorted : (entries.map Prod.fst).Pairwise (· < ·))
    (above : ∀ a ∈ acc, ∀ e ∈ entries, a.1 < e.1)
    (each : List.Forall₂ (fun e v => e.1 = v.1 ∧ d e.2 = .ok v.2) entries values) :
    insertEach d acc (entries.map fun e => (.string e.1, e.2)) = .ok (acc ++ values) := by
  induction each generalizing acc with
  | nil => simp [insertEach]
  | @cons e v entries values head _ ih =>
      obtain ⟨key, decoded⟩ := head
      obtain ⟨first, sortedRest⟩ := List.pairwise_cons.mp sorted
      have last : ∀ a ∈ acc, a.1 < e.1 := fun a mem => above a mem e List.mem_cons_self
      -- the entry just placed stays below the entries still to come
      have grown : ∀ a ∈ acc ++ [(e.1, v.2)], ∀ e' ∈ entries, a.1 < e'.1 := by
        intro a mem e' later
        rcases List.mem_append.mp mem with old | new
        · exact above a old e' (List.mem_cons_of_mem _ later)
        · rw [List.mem_singleton.mp new]
          exact first e'.1 (List.mem_map_of_mem later)
      simp only [List.map_cons, insertEach, decoded]
      rw [insertKey_of_lt last, ih _ sortedRest grown, key]
      simp

/-- A choice tagged by its first entry reads the variant the tag names and
keeps the other entries as they are. -/
theorem splitTagged_go {tagName : String} {variants : List String} (i : Nat)
    (kept : List (Node × Node)) (fields : List (String × Json.Value))
    (untagged : tagName ∉ fields.map Prod.fst) :
    splitTagged.go tagName variants (some i) kept (Node.ofJsonFields fields) =
      .ok (some i, kept.reverse ++ Node.ofJsonFields fields) := by
  induction fields generalizing kept with
  | nil => simp [splitTagged.go, Node.ofJsonFields]
  | cons field rest ih =>
      obtain ⟨name, j⟩ := field
      have other : (name == tagName) = false := by
        simpa using fun same : name = tagName => untagged (same ▸ List.mem_cons_self)
      rw [Node.ofJsonFields, splitTagged.go]
      simp only [other, Bool.false_eq_true, if_false, untaggedTree_ofJson]
      rw [ih _ fun mem => untagged (List.mem_cons_of_mem _ mem)]
      simp

theorem splitTagged_ofJson {tagName enumName variant : String} {variants : List String} {i : Nat}
    (named : variants.findIdx? (· == variant) = some i) (fields : List (String × Json.Value))
    (untagged : tagName ∉ fields.map Prod.fst) :
    splitTagged tagName enumName variants
        (Node.ofJson (.object ((tagName, .string variant) :: fields))) =
      .ok (i, .mapping (Node.ofJsonFields fields)) := by
  simp only [Node.ofJson, Node.ofJsonFields, splitTagged]
  rw [splitTagged.go]
  simp only [beq_self_eq_true, if_true, Option.isSome_none, Bool.false_eq_true, if_false]
  simp [variantIndex, Node.untag, named, splitTagged_go i [] fields untagged]

end Decode

/-! ## Records -/

open Decode Yaml

/-- A string map as a reader builds it: one entry per key, in increasing key
order. -/
def SortedKeys {α : Type} (m : List (String × α)) : Prop :=
  (m.map Prod.fst).Pairwise (· < ·)

theorem stringMap_textMapJson (style : SequenceEnd) (m : List (String × String))
    (sorted : SortedKeys m) : stringMap string style (Node.ofJson (textMapJson m)) = .ok m := by
  have entries : Node.ofJson (textMapJson m) =
      .mapping ((m.map fun e => (e.1, Node.string e.2)).map fun e => (.string e.1, e.2)) := by
    simp [textMapJson, Node.ofJson, Node.ofJsonFields_eq_map, Function.comp_def]
  have keys : (m.map fun e => (e.1, Node.string e.2)).map Prod.fst = m.map Prod.fst := by
    simp [Function.comp_def]
  have each : List.Forall₂ (fun e v => e.1 = v.1 ∧ string style e.2 = .ok v.2)
      (m.map fun e => (e.1, Node.string e.2)) m := by
    simp [List.forall₂_map_left_iff, List.forall₂_same, string]
  rw [entries, stringMap, insertEach_sorted [] (keys ▸ sorted) (by simp) each, List.nil_append]

/-- A JSON object whose fields give a record's fields in field order, under
names that find them, reads as the record those fields set. -/
theorem record_object_of_fillsInOrder {σ : Type} {style : SequenceEnd}
    {fields : List (Decode.Field σ)} {name : String} {init t : σ} {fs : List (String × Json.Value)}
    (fills : FillsInOrder style fields 0 init (fs.map fun f => (f.1, Node.ofJson f.2)) t) :
    record name fields init style (Node.ofJson (.object fs)) = .ok t := by
  have entries : Node.ofJsonFields fs =
      (fs.map fun f => (f.1, Node.ofJson f.2)).map fun e => (.string e.1, e.2) := by
    rw [Node.ofJsonFields_eq_map, List.map_map]
    rfl
  rw [Node.ofJson, entries]
  exact record_mapping_of_fillsInOrder fills

/-- A record of two text fields, the second with aliases, written as an object
with each text under its field's first name, reads back both texts. -/
theorem record_twoTexts_object {σ : Type} {style : SequenceEnd} {name first second : String}
    {aliases : List String} {storeFirst storeSecond : String → σ → σ} {init : σ} {x y : String}
    (differ : first ≠ second) :
    record name [.of [first] string storeFirst, .of (second :: aliases) string storeSecond] init
        style (Node.ofJson (.object [(first, .string x), (second, .string y)])) =
      .ok (storeSecond y (storeFirst x init)) := by
  have firstNamed : fieldIndex [Decode.Field.of [first] string storeFirst,
      .of (second :: aliases) string storeSecond] (.string first) = .ok (some 0) := by
    simp [fieldIndex, Decode.Field.of, List.findIdx?_cons]
  have secondNamed : fieldIndex [Decode.Field.of [first] string storeFirst,
      .of (second :: aliases) string storeSecond] (.string second) = .ok (some 1) := by
    simp [fieldIndex, Decode.Field.of, List.findIdx?_cons, differ.symm]
  exact record_object_of_fillsInOrder <| .given rfl firstNamed rfl <| .given rfl secondNamed rfl .done

theorem decodePlatform_toJson (style : SequenceEnd) (p : Platform) :
    decodePlatform style (Node.ofJson p.toJson) = .ok p :=
  -- four texts, each under its own name in field order
  record_object_of_fillsInOrder <|
    .given rfl rfl rfl <| .given rfl rfl rfl <| .given rfl rfl rfl <| .given rfl rfl rfl .done

/-- What a build needs to go through JSON: its maps sorted as a reader sorts
them. -/
structure Build.JsonReady (b : Build) : Prop where
  args : SortedKeys b.args
  labels : SortedKeys b.labels

theorem decodeBuild_toJson (style : SequenceEnd) (b : Build) (ready : b.JsonReady) :
    decodeBuild style (Node.ofJson b.toJson) = .ok b :=
  record_object_of_fillsInOrder <|
    .given rfl rfl rfl <| .given rfl rfl rfl <| .given rfl rfl rfl <|
    .given rfl rfl (Field.of_set_of_ok (stringMap_textMapJson style _ ready.args) _) <|
    .given rfl rfl (Field.of_set_of_ok (stringMap_textMapJson style _ ready.labels) _) <|
    .given rfl rfl (Field.of_set_of_ok (list_string_texts style _) _) .done

theorem decodeVolume_toJson (style : SequenceEnd) (v : Volume) :
    decodeVolume style (Node.ofJson v.toJson) = .ok v := by
  obtain ⟨name, host, temp⟩ := v
  -- a backing that is present is an object, read back as a record of its own
  have hostRead (h : HostPath) :
      option decodeHostPath style (Node.ofJson (.object [("path", .string h.path)])) =
        .ok (some h) :=
    option_object_of_ok <| record_object_of_fillsInOrder <| .given rfl rfl rfl .done
  have tempRead (t : TempDir) :
      option decodeTempDir style (Node.ofJson (.object [("medium", .string t.medium),
        ("size_limit", .optNat (t.sizeLimit.map UInt64.toNat))])) = .ok (some t) :=
    option_object_of_ok <| record_object_of_fillsInOrder <| .given rfl rfl rfl <|
      .given rfl rfl (Field.of_set_of_ok (option_ofJson_optNat _ (u64_unsigned style) _) _) .done
  -- an absent backing is left out, and its field passed over
  cases host with
  | none =>
      cases temp with
      | none =>
          exact record_object_of_fillsInOrder <|
            .given rfl rfl rfl <| .passed rfl rfl <| .passed rfl rfl .done
      | some t =>
          exact record_object_of_fillsInOrder <|
            .given rfl rfl rfl <| .passed rfl rfl <|
            .given rfl rfl (Field.of_set_of_ok (tempRead t) _) .done
  | some h =>
      cases temp with
      | none =>
          exact record_object_of_fillsInOrder <|
            .given rfl rfl rfl <| .given rfl rfl (Field.of_set_of_ok (hostRead h) _) <|
            .passed rfl rfl .done
      | some t =>
          exact record_object_of_fillsInOrder <|
            .given rfl rfl rfl <| .given rfl rfl (Field.of_set_of_ok (hostRead h) _) <|
            .given rfl rfl (Field.of_set_of_ok (tempRead t) _) .done

theorem decodeDevice_namedPathJson (style : SequenceEnd) (d : Device) :
    decodeDevice style (Node.ofJson (namedPathJson d.name d.path)) = .ok d :=
  record_twoTexts_object (by decide)

theorem decodeMount_namedPathJson (style : SequenceEnd) (m : Mount) :
    decodeMount style (Node.ofJson (namedPathJson m.name m.path)) = .ok m :=
  record_twoTexts_object (by decide)

/-- Both forms of a port come back: a bare number is read as a number first,
and a mapping, which is no number, as a mapping. -/
theorem decodePort_toJson (style : SequenceEnd) (p : Port) :
    decodePort style (Node.ofJson p.toJson) = .ok p := by
  cases p with
  | number p => simp [decodePort, Port.toJson, Json.Value.nat, Node.ofJson, u16_unsigned]
  | mapping p host protocol =>
      have port : (u16 style (Node.ofJson (.nat p.toNat))).map (fun q => { port := some q }) =
          .ok ({ port := some p } : PortParts) := by
        rw [Json.Value.nat, Node.ofJson, u16_unsigned]
        rfl
      have parts : record "PortMapping" portMappingFields {} style
          (.mapping (Node.ofJsonFields [("port", .nat p.toNat),
            ("host", .optNat (host.map UInt16.toNat)), ("protocol", .optString protocol)])) =
            .ok { port := some p, host, protocol } :=
        record_object_of_fillsInOrder <| .given rfl rfl port <|
          .given rfl rfl (Field.of_set_of_ok (option_ofJson_optNat _ (u16_unsigned style) _) _) <|
          .given rfl rfl (Field.of_set_of_ok (option_string_ofJson style _) _) .done
      -- an object is no port number, so it is read as a mapping
      simp only [decodePort, Port.toJson, Node.ofJson, u16, unsignedBelow, Except.map,
        decodePortMapping_eq, parts]
      rfl

/-! ## Containers -/

/-- Environments agree when they name the same variables in the same order,
with values that are the same YAML values. -/
def EnvironmentAgrees (env' env : List (String × Node)) : Prop :=
  List.Forall₂ (fun a b => a.1 = b.1 ∧ a.2.sameKey b.2 = true) env' env

/-- What a container needs to go through JSON: its environment a sorted map of
nodes that JSON holds. -/
structure Container.JsonReady (c : Container) : Prop where
  sorted : SortedKeys c.environment
  shaped : ∀ e ∈ c.environment, e.2.JsonShaped

/-- Containers agree when they are equal but for environments that agree. -/
def Container.Agrees (c' c : Container) : Prop :=
  { c' with environment := c.environment } = c ∧ EnvironmentAgrees c'.environment c.environment

theorem environmentJson_of_shaped {env : List (String × Node)}
    (shaped : ∀ e ∈ env, e.2.JsonShaped) :
    ∃ fields, environmentJson env = .ok fields ∧
      List.Forall₂ (fun f e => f.1 = e.1 ∧ (Node.ofJson f.2).sameKey e.2 = true) fields env := by
  induction env with
  | nil => exact ⟨[], rfl, .nil⟩
  | cons e rest ih =>
      obtain ⟨key, n⟩ := e
      obtain ⟨j, written, same⟩ := (shaped (key, n) List.mem_cons_self).toJson_sameKey
      obtain ⟨fields, writtenRest, sameRest⟩ :=
        ih fun e mem => shaped e (List.mem_cons_of_mem _ mem)
      exact ⟨(key, j) :: fields, by simp [environmentJson, written, writtenRest, Except.map],
        .cons ⟨rfl, same⟩ sameRest⟩

/-- An environment written as a JSON object reads back as an environment that
agrees with it. -/
theorem environment_roundTrip (style : SequenceEnd) (env : List (String × Node))
    (sorted : SortedKeys env) (shaped : ∀ e ∈ env, e.2.JsonShaped) :
    ∃ fields env', environmentJson env = .ok fields ∧
      stringMap node style (.mapping (Node.ofJsonFields fields)) = .ok env' ∧
      EnvironmentAgrees env' env := by
  obtain ⟨fields, written, same⟩ := environmentJson_of_shaped shaped
  let read := fields.map fun f => (f.1, Node.ofJson f.2)
  have keys : read.map Prod.fst = env.map Prod.fst := by
    simpa [read, Function.comp_def] using map_fst_eq_of_forall₂ same fun _ _ named => named.1
  have entries : Node.ofJsonFields fields = read.map fun e => (.string e.1, e.2) := by
    simp [read, Node.ofJsonFields_eq_map, Function.comp_def]
  have each : List.Forall₂ (fun e v => e.1 = v.1 ∧ node style e.2 = .ok v.2) read read := by
    simp [List.forall₂_same, node]
  refine ⟨fields, read, written, ?_, ?_⟩
  · rw [entries, stringMap, insertEach_sorted [] (keys ▸ sorted) (by simp) each, List.nil_append]
  · simpa [EnvironmentAgrees, read, List.forall₂_map_left_iff] using same

theorem decodeContainer_toJson (style : SequenceEnd) (c : Container) (ready : c.JsonReady) :
    ∃ j c', c.toJson = .ok j ∧ decodeContainer style (Node.ofJson j) = .ok c' ∧ c'.Agrees c := by
  obtain ⟨fields, env', written, decodedEnv, agrees⟩ :=
    environment_roundTrip style c.environment ready.sorted ready.shaped
  have devices : list decodeDevice style
      (.sequence (Node.ofJsonItems (c.devices.map fun d => namedPathJson d.name d.path))) =
        .ok c.devices :=
    list_ofJsonItems c.devices fun d _ => decodeDevice_namedPathJson style d
  have ports : list decodePort style (.sequence (Node.ofJsonItems (c.ports.map Port.toJson))) =
      .ok c.ports :=
    list_ofJsonItems c.ports fun p _ => decodePort_toJson style p
  have mounts : list decodeMount style
      (.sequence (Node.ofJsonItems (c.volumes.map fun m => namedPathJson m.name m.path))) =
        .ok c.volumes :=
    list_ofJsonItems c.volumes fun m _ => decodeMount_namedPathJson style m
  simp only [Container.toJson, written, Except.map]
  refine ⟨_, { c with environment := env' }, rfl, ?_, rfl, agrees⟩
  exact record_object_of_fillsInOrder <|
    .given rfl rfl rfl <| .given rfl rfl rfl <|
    .given rfl rfl (Field.of_set_of_ok (list_string_texts style _) _) <|
    .given rfl rfl (Field.of_set_of_ok decodedEnv _) <|
    .given rfl rfl rfl <| .given rfl rfl rfl <|
    .given rfl rfl (Field.of_set_of_ok devices _) <|
    .given rfl rfl (Field.of_set_of_ok ports _) <|
    .given rfl rfl (Field.of_set_of_ok (list_string_texts style _) _) <|
    .given rfl rfl (Field.of_set_of_ok (list_string_texts style _) _) <|
    .given rfl rfl (Field.of_set_of_ok (list_string_texts style _) _) <|
    .given rfl rfl rfl <|
    .given rfl rfl (Field.of_set_of_ok mounts _) <|
    .given rfl rfl (Field.of_set_of_ok (list_string_texts style _) _) .done

theorem containers_roundTrip (style : SequenceEnd) (cs : List Container)
    (ready : ∀ c ∈ cs, c.JsonReady) :
    ∃ js cs', containersJson cs = .ok js ∧
      mapEach (decodeContainer style) (Node.ofJsonItems js) = .ok cs' ∧
      List.Forall₂ Container.Agrees cs' cs := by
  induction cs with
  | nil => exact ⟨[], [], rfl, rfl, .nil⟩
  | cons c rest ih =>
      obtain ⟨j, c', written, decoded, agrees⟩ :=
        decodeContainer_toJson style c (ready c List.mem_cons_self)
      obtain ⟨js, cs', writtenRest, decodedRest, agreesRest⟩ :=
        ih fun c mem => ready c (List.mem_cons_of_mem _ mem)
      refine ⟨j :: js, c' :: cs', ?_, ?_, .cons agrees agreesRest⟩
      · simp [containersJson, written, writtenRest, Except.map]
      · simp [Node.ofJsonItems, mapEach, decoded, decodedRest, Except.map]

/-! ## Pipelines and resources -/

/-- What a pipeline needs to go through JSON: a build with sorted maps and
containers that are ready. -/
structure Pipeline.JsonReady (p : Pipeline) : Prop where
  build : ∀ b ∈ p.build, b.JsonReady
  services : ∀ c ∈ p.services, c.JsonReady
  steps : ∀ c ∈ p.steps, c.JsonReady

/-- Pipelines agree when they are equal but for services and steps that agree
one by one. -/
def Pipeline.Agrees (p' p : Pipeline) : Prop :=
  { p' with services := p.services, steps := p.steps } = p ∧
    List.Forall₂ Container.Agrees p'.services p.services ∧
    List.Forall₂ Container.Agrees p'.steps p.steps

/-- A pipeline's fields are read back one by one; the build, services and steps
as they read back on their own. -/
theorem decodePipeline_object (style : SequenceEnd) (p : Pipeline) {build : Json.Value}
    {services steps : List Json.Value} {services' steps' : List Container}
    (buildRead : option decodeBuild style (Node.ofJson build) = .ok p.build)
    (servicesRead : list decodeContainer style (.sequence (Node.ofJsonItems services)) = .ok services')
    (stepsRead : list decodeContainer style (.sequence (Node.ofJsonItems steps)) = .ok steps') :
    decodePipeline style (.mapping (Node.ofJsonFields
      [("name", .string p.name), ("type", .string p.pipelineType), ("platform", p.platform.toJson),
        ("build", build), ("volumes", .array (p.volumes.map Volume.toJson)),
        ("services", .array services), ("steps", .array steps),
        ("depends_on", textsJson p.dependsOn)])) =
      .ok { p with services := services', steps := steps' } := by
  have volumes : list decodeVolume style (.sequence (Node.ofJsonItems (p.volumes.map Volume.toJson))) =
      .ok p.volumes :=
    list_ofJsonItems p.volumes fun v _ => decodeVolume_toJson style v
  exact record_object_of_fillsInOrder <|
    .given rfl rfl rfl <| .given rfl rfl rfl <|
    .given rfl rfl (Field.of_set_of_ok (decodePlatform_toJson style p.platform) _) <|
    .given rfl rfl (Field.of_set_of_ok buildRead _) <|
    .given rfl rfl (Field.of_set_of_ok volumes _) <|
    .given rfl rfl (Field.of_set_of_ok servicesRead _) <|
    .given rfl rfl (Field.of_set_of_ok stepsRead _) <|
    .given rfl rfl (Field.of_set_of_ok (list_string_texts style _) _) .done

theorem decodePipeline_fieldsJson (style : SequenceEnd) (p : Pipeline) (ready : p.JsonReady) :
    ∃ fields p', p.fieldsJson = .ok fields ∧
      fields.map Prod.fst =
        ["name", "type", "platform", "build", "volumes", "services", "steps", "depends_on"] ∧
      decodePipeline style (.mapping (Node.ofJsonFields fields)) = .ok p' ∧ p'.Agrees p := by
  obtain ⟨services, services', writtenServices, decodedServices, agreesServices⟩ :=
    containers_roundTrip style p.services ready.services
  obtain ⟨steps, steps', writtenSteps, decodedSteps, agreesSteps⟩ :=
    containers_roundTrip style p.steps ready.steps
  simp only [Pipeline.fieldsJson, writtenServices, writtenSteps]
  refine ⟨_, { p with services := services', steps := steps' }, rfl, rfl,
    decodePipeline_object style p ?_ decodedServices decodedSteps, rfl, agreesServices, agreesSteps⟩
  -- an absent build is written as `null`, a present one as an object
  cases built : p.build with
  | none => rfl
  | some b =>
      rw [option_of_ne_null _ _ (by simp [Build.toJson, Node.ofJson]),
        decodeBuild_toJson style b (ready.build b built)]
      rfl

/-- What a resource needs to go through JSON; secrets and signatures hold
only texts. -/
def Resource.JsonReady : Resource → Prop
  | .pipeline p => p.JsonReady
  | .secret _ | .signature _ => True

/-- Resources agree when they are of one kind and agree as that kind. -/
def Resource.Agrees : Resource → Resource → Prop
  | .pipeline p', .pipeline p => p'.Agrees p
  | .secret s', .secret s => s' = s
  | .signature s', .signature s => s' = s
  | _, _ => False

/-- A resource written as JSON reads back as the same resource: of the same
kind, with every field as it was, the environments' YAML values included. -/
theorem resource_json_roundTrip (r : Resource) (ready : r.JsonReady) (style : SequenceEnd) :
    ∃ j r', r.toJson = .ok j ∧ decodeResource style (Node.ofJson j) = .ok r' ∧ r'.Agrees r := by
  cases r with
  | pipeline p =>
      obtain ⟨fields, p', written, names, decoded, agrees⟩ := decodePipeline_fieldsJson style p ready
      have untagged : "kind" ∉ fields.map Prod.fst := by
        rw [names]
        decide
      simp only [Resource.toJson, written, Except.map]
      refine ⟨_, .pipeline p', rfl, ?_, agrees⟩
      rw [decodeResource, splitTagged_ofJson (i := 0) (by decide) fields untagged]
      simp [decoded, Except.map]
  | secret s =>
      refine ⟨_, .secret s, rfl, ?_, rfl⟩
      have read : decodeSecret style (.mapping (Node.ofJsonFields [("name", .string s.name),
          ("data", .string s.data)])) = .ok s :=
        record_object_of_fillsInOrder <| .given rfl rfl rfl <| .given rfl rfl rfl .done
      rw [decodeResource, splitTagged_ofJson (i := 1) (by decide) _ (by simp)]
      simp only [read, Except.map]
  | signature s =>
      refine ⟨_, .signature s, rfl, ?_, rfl⟩
      have read : decodeSignature style (.mapping (Node.ofJsonFields [("hmac", .string s.hmac)])) =
          .ok s :=
        record_object_of_fillsInOrder <| .given rfl rfl rfl .done
      rw [decodeResource, splitTagged_ofJson (i := 2) (by decide) _ (by simp)]
      simp only [read, Except.map]

/-- The step of `portsAndMapping`: its environment holds a mapping written with
its keys out of order, and it has ports of both forms. -/
def buildStep : Container :=
  { name := "build"
    image := "golang"
    environment := [("OPTS", .mapping [(.string "b", .bool true), (.string "a", .null)])]
    ports := [.number 80, .mapping 8080 (some 80) (some "tcp")] }

/-- A pipeline with one step. -/
def portsAndMapping : Resource :=
  .pipeline { name := "default", steps := [buildStep] }

theorem portsAndMapping_roundTrip :
    ∃ j r', portsAndMapping.toJson = .ok j ∧
      decodeResource .exact (Node.ofJson j) = .ok r' ∧ r'.Agrees portsAndMapping := by
  have shaped : (Node.mapping [(.string "b", .bool true), (.string "a", .null)]).JsonShaped := by
    refine @Node.JsonShaped.mapping [("b", .bool true), ("a", .null)] (by decide) ?_
    simp only [List.mem_cons, List.not_mem_nil, or_false, forall_eq_or_imp, forall_eq]
    exact ⟨.bool true, .null⟩
  have step : buildStep.JsonReady := ⟨List.pairwise_singleton _ _, by simpa [buildStep] using shaped⟩
  exact resource_json_roundTrip portsAndMapping ⟨by simp, by simp, by simpa using step⟩ .exact

end CiManifest
