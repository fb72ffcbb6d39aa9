import CiManifest.Pipeline.Decode
import CiManifest.Proofs.Decode.Records

/-!
# The forms of a port

A container's port is read from data as a bare number or as a port mapping.
The number is tried first: an unsigned integer below `2^16`. Anything else is
read as a record with the fields `port` (required), `host` and `protocol`, in
either of the two ways every record is read:

* from a mapping, entry by entry: a key names a field by its name or by its
  position as an unsigned integer (`0`, `1`, `2`), another text or a larger
  integer is skipped, a key of any other kind is refused, and a field named
  twice is refused;
* from a sequence, one element per field in order, so `[80]` is the port 80
  and a fourth element is one too many.

`PortForm` states these forms without the reading loop, and
`decodePort_eq_ok_iff` shows that reading accepts exactly them. The host port
a port binds is then read off its form (`PortForm.host_eq_some_iff`).

The invariant of the mapping loop (`fillEntries_portMappingFields_eq_ok_iff`)
keeps, for each field, whether an earlier entry named it and which value the
entries give it; no other state is needed, since each field is stored in its
own part of the record.
-/

namespace CiManifest

open Decode Yaml

/-! ## Values a port is made of -/

namespace Yaml

/-- A node holding the port number `p`: an unsigned integer below `2^16`. -/
def Node.HoldsPort (n : Node) (p : UInt16) : Prop :=
  n = .number (.unsigned p.toNat)

/-- A node holding an optional host port: `null` for none. -/
def Node.HoldsHost (n : Node) : Option UInt16 → Prop
  | none => n = .null
  | some p => n.HoldsPort p

/-- A node holding an optional protocol: `null` for none. -/
def Node.HoldsProtocol (n : Node) : Option String → Prop
  | none => n = .null
  | some s => n = .string s

end Yaml

/-! ## Reading the values -/

theorem u16_eq_ok_iff (style : SequenceEnd) (n : Node) (p : UInt16) :
    u16 style n = .ok p ↔ n.HoldsPort p := by
  unfold u16 unsignedBelow Node.HoldsPort
  constructor
  · intro decoded
    split at decoded
    · rename_i k
      split at decoded
      · rename_i bound
        simp only [Except.map, Except.ok.injEq] at decoded
        subst decoded
        simp [Nat.toUInt16, UInt16.toNat_ofNat_of_lt' (by simpa using bound)]
      · simp [Except.map] at decoded
    · simp [Except.map] at decoded
    · simp [Except.map] at decoded
  · rintro rfl
    have bound : p.toNat < Nat.pow 2 16 := p.toNat_lt
    simp [bound, Except.map, Nat.toUInt16]

/-- Reading an optional value: `null` is absent, anything else is read. -/
theorem option_eq_ok_iff {α : Type} (d : Decoder α) (style : SequenceEnd) (n : Node)
    (a : Option α) :
    option d style n = .ok a ↔
      (n = .null ∧ a = none) ∨ (n ≠ .null ∧ ∃ x, a = some x ∧ d style n = .ok x) := by
  cases n with
  | null => cases a <;> simp [option]
  | _ =>
      cases read : d style _ <;> cases a <;> simp [option, Except.map, read]

theorem option_u16_eq_ok_iff (style : SequenceEnd) (n : Node) (h : Option UInt16) :
    option u16 style n = .ok h ↔ n.HoldsHost h := by
  rw [option_eq_ok_iff]
  cases h with
  | none => simp [Node.HoldsHost]
  | some p =>
      simp only [Node.HoldsHost, reduceCtorEq, and_false, Option.some.injEq, exists_eq_left',
        false_or, u16_eq_ok_iff, and_iff_right_iff_imp]
      rintro rfl
      exact Node.noConfusion

theorem option_string_eq_ok_iff (style : SequenceEnd) (n : Node) (t : Option String) :
    option string style n = .ok t ↔ n.HoldsProtocol t := by
  rw [option_eq_ok_iff]
  cases t with
  | none => simp [Node.HoldsProtocol]
  | some s =>
      cases n <;> simp [Node.HoldsProtocol, string, eq_comm]

/-! ## Keys of a port mapping -/

/-- The fields of a port mapping, in declaration order. -/
def portFieldNames : List String := ["port", "host", "protocol"]

/-- The port-mapping field a key names: `port`, `host` and `protocol` by name,
or by position 0, 1 and 2 as an unsigned integer. Other texts and larger
integers name none. -/
def portFieldOf : Node → Option Nat
  | .string s => portFieldNames.idxOf? s
  | .number (.unsigned n) => if n < portFieldNames.length then some n else none
  | _ => none

/-- Whether a node may be the key of a record entry: a text or an unsigned integer. -/
def Yaml.Node.isFieldKey : Node → Bool
  | .string _ => true
  | .number (.unsigned _) => true
  | _ => false

/-- The values that the entries of a mapping give the port-mapping field at `position`. -/
def portFieldValues (entries : List (Node × Node)) (position : Nat) : List Node :=
  (entries.filter fun e => portFieldOf e.1 == some position).map Prod.snd

/-- How a field of a record ends up from the values its entries give it: as
it was when none does, or as the one value given holds it. -/
def FieldFilled {α : Type} (holds : Node → α → Prop) (values : List Node) (before after : α) :
    Prop :=
  (values = [] ∧ after = before) ∨ ∃ v, values = [v] ∧ holds v after

theorem fieldFilled_nil_iff {α : Type} {holds : Node → α → Prop} {before after : α} :
    FieldFilled holds [] before after ↔ after = before := by
  simp [FieldFilled]

theorem fieldFilled_cons_iff {α : Type} {holds : Node → α → Prop} {v : Node} {values : List Node}
    {before after : α} :
    FieldFilled holds (v :: values) before after ↔ values = [] ∧ holds v after := by
  constructor
  · rintro (⟨⟨⟩, _⟩ | ⟨w, given, holdsW⟩)
    obtain ⟨rfl, rfl⟩ := List.cons_eq_cons.mp given
    exact ⟨rfl, holdsW⟩
  · rintro ⟨rfl, holdsV⟩
    exact .inr ⟨v, rfl, holdsV⟩

/-! ## Filling a port mapping from its entries -/

theorem fieldIndex_portMappingFields {k : Node} (key : k.isFieldKey = true) :
    fieldIndex portMappingFields k = .ok (portFieldOf k) := by
  match k, key with
  | .string s, _ =>
      simp [fieldIndex, portFieldOf, portMappingFields, portFieldNames, Decode.Field.of,
        List.findIdx?_cons, List.idxOf?, @eq_comm _ "port" s, @eq_comm _ "host" s,
        @eq_comm _ "protocol" s]
  | .number (.unsigned n), _ => simp [fieldIndex, portFieldOf, portMappingFields, portFieldNames]

theorem fieldIndex_portMappingFields_error {k : Node} (key : k.isFieldKey = false) :
    ∃ e, fieldIndex portMappingFields k = .error e := by
  match k, key with
  | .null, _ | .bool _, _ | .number (.negative _), _ | .number (.float _), _ | .sequence _, _
  | .mapping _, _ | .tagged _ _, _ => exact ⟨_, rfl⟩

theorem portFieldValues_cons (k v : Node) (rest : List (Node × Node)) (i : Nat) :
    portFieldValues ((k, v) :: rest) i =
      if portFieldOf k = some i then v :: portFieldValues rest i else portFieldValues rest i := by
  by_cases named : portFieldOf k = some i <;> simp [portFieldValues, named]

theorem portFieldOf_lt {k : Node} {i : Nat} (named : portFieldOf k = some i) : i < 3 := by
  match k with
  | .string s =>
      obtain ⟨bound, -, -⟩ := List.idxOf?_eq_some_iff.mp named
      simpa [portFieldNames] using bound
  | .number (.unsigned n) =>
      by_cases bound : n < 3
      · simp [portFieldOf, portFieldNames, bound] at named
        omega
      · simp [portFieldOf, portFieldNames, bound] at named
  | .null | .bool _ | .number (.negative _) | .number (.float _) | .sequence _ | .mapping _
  | .tagged _ _ => simp [portFieldOf] at named

/-- A node holding a port that a port mapping gives. -/
def HoldsSomePort (n : Node) (p : Option UInt16) : Prop :=
  ∃ q, p = some q ∧ n.HoldsPort q

theorem holdsSomePort_iff (style : SequenceEnd) (v : Node) (x : Option UInt16) :
    HoldsSomePort v x ↔ (u16 style v).map some = .ok x := by
  cases read : u16 style v <;> cases x <;>
    simp [HoldsSomePort, Except.map, ← u16_eq_ok_iff style, read]

/-- A field given once more, by a value that reads as `a`: the rest must not
give it again, and then it ends up as `a`. -/
theorem fieldFilled_fresh {α : Type} {holds : Node → α → Prop} {v : Node} {values : List Node}
    {before a after : α} {read : Except Mismatch α} (reads : ∀ x, holds v x ↔ read = .ok x)
    (value : read = .ok a) :
    FieldFilled holds (v :: values) before after ↔ values = [] ∧ FieldFilled holds values a after := by
  rw [fieldFilled_cons_iff, reads, value, Except.ok.injEq]
  constructor
  · rintro ⟨rfl, rfl⟩
    exact ⟨rfl, fieldFilled_nil_iff.mpr rfl⟩
  · rintro ⟨rfl, filled⟩
    exact ⟨rfl, (fieldFilled_nil_iff.mp filled).symm⟩

/-- A field given by a value that does not read is never filled. -/
theorem not_fieldFilled_of_error {α : Type} {holds : Node → α → Prop} {v : Node}
    {values : List Node} {before after : α} {read : Except Mismatch α} {e : Mismatch}
    (reads : ∀ x, holds v x ↔ read = .ok x) (failed : read = .error e) :
    ¬FieldFilled holds (v :: values) before after := by
  rw [fieldFilled_cons_iff, reads, failed]
  simp

theorem fillEntries_portMappingFields_eq_ok_iff (style : SequenceEnd)
    (entries : List (Node × Node)) (s s' : PortParts) (seen seen' : List Nat) :
    fillEntries style portMappingFields (s, seen) entries = .ok (s', seen') ↔
      (∀ e ∈ entries, e.1.isFieldKey = true) ∧
      ((0 ∈ seen → portFieldValues entries 0 = []) ∧
        FieldFilled HoldsSomePort (portFieldValues entries 0) s.port s'.port) ∧
      ((1 ∈ seen → portFieldValues entries 1 = []) ∧
        FieldFilled Node.HoldsHost (portFieldValues entries 1) s.host s'.host) ∧
      ((2 ∈ seen → portFieldValues entries 2 = []) ∧
        FieldFilled Node.HoldsProtocol (portFieldValues entries 2) s.protocol s'.protocol) ∧
      seen' = (entries.filterMap fun e => portFieldOf e.1).reverse ++ seen := by
  induction entries generalizing s seen with
  | nil =>
      obtain ⟨port, host, protocol⟩ := s
      obtain ⟨port', host', protocol'⟩ := s'
      simp only [fillEntries, Except.ok.injEq, Prod.mk.injEq, PortParts.mk.injEq, portFieldValues,
        List.filter_nil, List.map_nil, List.filterMap_nil, List.reverse_nil,
        List.nil_append, fieldFilled_nil_iff]
      constructor
      · rintro ⟨⟨rfl, rfl, rfl⟩, rfl⟩
        simp
      · rintro ⟨-, ⟨-, rfl⟩, ⟨-, rfl⟩, ⟨-, rfl⟩, rfl⟩
        exact ⟨⟨rfl, rfl, rfl⟩, rfl⟩
  | cons entry rest ih =>
      obtain ⟨k, v⟩ := entry
      cases key : k.isFieldKey with
      | false =>
          obtain ⟨e, refused⟩ := fieldIndex_portMappingFields_error key
          simp [fillEntries, refused, key]
      | true =>
          cases named : portFieldOf k with
          | none =>
              simp [fillEntries, fieldIndex_portMappingFields key, named, ih, portFieldValues_cons, key]
          | some i =>
              have position := portFieldOf_lt named
              by_cases given : i ∈ seen
              · -- a field named a second time
                have twice : seen.contains i = true := by simpa using given
                simp only [fillEntries, fieldIndex_portMappingFields key, named, twice, if_true,
                  reduceCtorEq, false_iff]
                rintro ⟨-, ⟨port, -⟩, ⟨host, -⟩, ⟨protocol, -⟩, -⟩
                obtain rfl | rfl | rfl : i = 0 ∨ i = 1 ∨ i = 2 := by omega
                · simpa [portFieldValues_cons, named] using port given
                · simpa [portFieldValues_cons, named] using host given
                · simpa [portFieldValues_cons, named] using protocol given
              · have index : fieldIndex portMappingFields k = .ok (some i) := by
                  rw [fieldIndex_portMappingFields key, named]
                obtain rfl | rfl | rfl : i = 0 ∨ i = 1 ∨ i = 2 := by omega
                · rw [fillEntries_cons_fresh index given rfl]
                  have reads := holdsSomePort_iff style v
                  cases read : u16 style v with
                  | error e =>
                      have failed : (u16 style v).map some = .error e := by simp [read, Except.map]
                      simp only [read, Except.map, Except.bind, reduceCtorEq, false_iff]
                      rintro ⟨-, ⟨-, port⟩, -⟩
                      simp only [portFieldValues_cons, named, if_true] at port
                      exact not_fieldFilled_of_error reads failed port
                  | ok p =>
                      have value : (u16 style v).map some = .ok (some p) := by simp [read, Except.map]
                      simp [read, Except.map, Except.bind, ih, portFieldValues_cons, named, key, given,
                        fieldFilled_fresh reads value]
                · rw [fillEntries_cons_fresh index given rfl]
                  have reads := fun x => (option_u16_eq_ok_iff style v x).symm
                  cases read : option u16 style v with
                  | error e =>
                      simp only [Decode.Field.of, read, Except.map, Except.bind, reduceCtorEq, false_iff]
                      rintro ⟨-, -, ⟨-, host⟩, -⟩
                      simp only [portFieldValues_cons, named, if_true] at host
                      exact not_fieldFilled_of_error reads read host
                  | ok h =>
                      simp [Decode.Field.of, read, Except.map, Except.bind, ih, portFieldValues_cons, named, key,
                        given, fieldFilled_fresh reads read]
                · rw [fillEntries_cons_fresh index given rfl]
                  have reads := fun x => (option_string_eq_ok_iff style v x).symm
                  cases read : option string style v with
                  | error e =>
                      simp only [Decode.Field.of, read, Except.map, Except.bind, reduceCtorEq, false_iff]
                      rintro ⟨-, -, -, ⟨-, protocol⟩, -⟩
                      simp only [portFieldValues_cons, named, if_true] at protocol
                      exact not_fieldFilled_of_error reads read protocol
                  | ok t =>
                      simp [Decode.Field.of, read, Except.map, Except.bind, ih, portFieldValues_cons, named, key,
                        given, fieldFilled_fresh reads read]

theorem mem_filterMap_portFieldOf_iff (entries : List (Node × Node)) (i : Nat) :
    i ∈ entries.filterMap (fun e => portFieldOf e.1) ↔ portFieldValues entries i ≠ [] := by
  simp [portFieldValues, List.filter_eq_nil_iff]

theorem missingRequired_portMappingFields (seen : List Nat) :
    missingRequired portMappingFields seen = none ↔ 0 ∈ seen := by
  simp only [missingRequired, portMappingFields, Decode.Field.of, List.zipIdx, List.find?_cons]
  by_cases given : 0 ∈ seen <;> simp [given]

/-! ## The forms of a port -/

/-- The forms in which data gives a port. -/
inductive PortForm : Node → Port → Prop
  /-- A bare number below `2^16`. -/
  | number (p : UInt16) : PortForm (.number (.unsigned p.toNat)) (.number p)
  /-- A mapping whose keys are texts or unsigned integers: `port` given once,
  `host` and `protocol` at most once, by name or by position, and every other
  key skipped. -/
  | mapping {entries : List (Node × Node)} {port : UInt16} {host : Option UInt16}
      {protocol : Option String} :
      (∀ e ∈ entries, e.1.isFieldKey = true) →
      (∃ v, portFieldValues entries 0 = [v] ∧ v.HoldsPort port) →
      FieldFilled Node.HoldsHost (portFieldValues entries 1) none host →
      FieldFilled Node.HoldsProtocol (portFieldValues entries 2) none protocol →
      PortForm (.mapping entries) (.mapping port host protocol)
  /-- A sequence of the fields in order: the port, then at most the host and
  the protocol. -/
  | sequence {portNode : Node} {rest : List Node} {port : UInt16} {host : Option UInt16}
      {protocol : Option String} :
      portNode.HoldsPort port →
      FieldFilled Node.HoldsHost (rest.take 1) none host →
      FieldFilled Node.HoldsProtocol (rest.drop 1) none protocol →
      PortForm (.sequence (portNode :: rest)) (.mapping port host protocol)

theorem decodePortMapping_mapping_eq_ok_iff (style : SequenceEnd) (entries : List (Node × Node))
    (p : Port) : decodePortMapping style (.mapping entries) = .ok p ↔ PortForm (.mapping entries) p := by
  constructor
  · intro decoded
    simp only [decodePortMapping_eq, record] at decoded
    cases fill : fillEntries style portMappingFields ({}, []) entries with
    | error e => simp only [Except.map, fill, reduceCtorEq] at decoded
    | ok result =>
        obtain ⟨parts, seen⟩ := result
        cases missing : missingRequired portMappingFields seen with
        | some field => simp only [Except.map, fill, missing, reduceCtorEq] at decoded
        | none =>
            simp only [fill, missing, Except.map, Except.ok.injEq] at decoded
            subst decoded
            obtain ⟨keys, ⟨-, port⟩, ⟨-, host⟩, ⟨-, protocol⟩, rfl⟩ :=
              (fillEntries_portMappingFields_eq_ok_iff style entries {} parts [] seen).mp fill
            have named : portFieldValues entries 0 ≠ [] := by
              rw [← mem_filterMap_portFieldOf_iff]
              simpa only [List.mem_filterMap, List.append_nil, List.mem_reverse] using
                (missingRequired_portMappingFields _).mp missing
            rcases port with ⟨given, -⟩ | ⟨v, given, q, portIs, holds⟩
            · exact absurd given named
            · rw [portIs]
              exact .mapping keys ⟨v, given, holds⟩ host protocol
  · intro form
    cases form with
    | @mapping _ port host protocol keys named hostFilled protocolFilled =>
        obtain ⟨v, given, holds⟩ := named
        have fill : fillEntries style portMappingFields ({}, []) entries =
            .ok ({ port := some port, host, protocol },
              (entries.filterMap fun e => portFieldOf e.1).reverse) :=
          (fillEntries_portMappingFields_eq_ok_iff ..).mpr
            ⟨keys, ⟨(absurd · List.not_mem_nil), .inr ⟨v, given, port, rfl, holds⟩⟩,
              ⟨(absurd · List.not_mem_nil), hostFilled⟩, ⟨(absurd · List.not_mem_nil), protocolFilled⟩,
              (List.append_nil _).symm⟩
        have present : missingRequired portMappingFields
            (entries.filterMap fun e => portFieldOf e.1).reverse = none := by
          rw [missingRequired_portMappingFields, List.mem_reverse, mem_filterMap_portFieldOf_iff, given]
          exact List.cons_ne_nil v []
        simp only [decodePortMapping_eq, Except.map, record, fill, present, Option.getD_some]

theorem portForm_sequence_iff {portNode : Node} {rest : List Node} {port : UInt16}
    {host : Option UInt16} {protocol : Option String} :
    PortForm (.sequence (portNode :: rest)) (.mapping port host protocol) ↔
      portNode.HoldsPort port ∧ FieldFilled Node.HoldsHost (rest.take 1) none host ∧
        FieldFilled Node.HoldsProtocol (rest.drop 1) none protocol := by
  constructor
  · rintro (_ | _ | ⟨holds, hostFilled, protocolFilled⟩)
    exact ⟨holds, hostFilled, protocolFilled⟩
  · rintro ⟨holds, hostFilled, protocolFilled⟩
    exact .sequence holds hostFilled protocolFilled

/-- The port element sets the port, as `u16` reads it. -/
theorem portField_set_eq_ok_iff {style : SequenceEnd} {v : Node} {s s' : PortParts} :
    (u16 style v).map (fun p => { s with port := some p }) = .ok s' ↔
      ∃ q, v.HoldsPort q ∧ s' = { s with port := some q } := by
  simp only [Except.map_eq_ok_iff, u16_eq_ok_iff, @eq_comm _ s']

/-- After the port, the elements of a sequence give the host and then the
protocol, each at most once, and nothing else. -/
theorem fillsPrefix_hostProtocol_iff {style : SequenceEnd} {rest : List Node} {s t : PortParts} :
    FillsPrefix style (portMappingFields.drop 1) s rest t ↔
      t.port = s.port ∧ FieldFilled Node.HoldsHost (rest.take 1) s.host t.host ∧
        FieldFilled Node.HoldsProtocol (rest.drop 1) s.protocol t.protocol := by
  obtain ⟨port, host, protocol⟩ := s
  obtain ⟨port', host', protocol'⟩ := t
  match rest with
  | [] =>
      simp only [portMappingFields, List.drop_succ_cons, List.drop_zero, fillsPrefix_nil_iff,
        List.mem_cons, List.not_mem_nil, or_false, forall_eq_or_imp, forall_eq, Field.of_required,
        and_self, true_and, List.take_nil, List.drop_nil, fieldFilled_nil_iff, PortParts.mk.injEq]
  | [b] =>
      simp only [portMappingFields, List.drop_succ_cons, List.drop_zero, fillsPrefix_cons_iff,
        fillsPrefix_nil_iff, Field.of_set_eq_ok_iff, option_u16_eq_ok_iff, List.mem_cons,
        List.not_mem_nil, or_false, forall_eq, Field.of_required, true_and, List.take_succ_cons,
        List.take_zero, List.drop_nil, fieldFilled_cons_iff, fieldFilled_nil_iff]
      constructor
      · rintro ⟨_, ⟨h, holds, rfl⟩, same⟩
        cases same
        exact ⟨rfl, holds, rfl⟩
      · rintro ⟨rfl, holds, rfl⟩
        exact ⟨_, ⟨host', holds, rfl⟩, rfl⟩
  | [b, c] =>
      simp only [portMappingFields, List.drop_succ_cons, List.drop_zero, fillsPrefix_cons_iff,
        fillsPrefix_nil_iff, Field.of_set_eq_ok_iff, option_u16_eq_ok_iff, option_string_eq_ok_iff,
        List.not_mem_nil, false_implies, implies_true, true_and, List.take_succ_cons, List.take_zero,
        fieldFilled_cons_iff]
      constructor
      · rintro ⟨_, ⟨h, holdsHost, rfl⟩, _, ⟨k, holdsProtocol, rfl⟩, same⟩
        cases same
        exact ⟨rfl, holdsHost, holdsProtocol⟩
      · rintro ⟨rfl, holdsHost, holdsProtocol⟩
        exact ⟨_, ⟨host', holdsHost, rfl⟩, _, ⟨protocol', holdsProtocol, rfl⟩, rfl⟩
  | b :: c :: d :: more =>
      -- a fourth element is one too many
      have tooMany : ¬FillsPrefix style (portMappingFields.drop 1) ⟨port, host, protocol⟩
          (b :: c :: d :: more) ⟨port', host', protocol'⟩ := fun fills => by
        simpa [portMappingFields] using fills.length_le
      exact iff_of_false tooMany (by simp [fieldFilled_cons_iff])

theorem decodePortMapping_sequence_eq_ok_iff (style : SequenceEnd) (items : List Node) (p : Port) :
    decodePortMapping style (.sequence items) = .ok p ↔ PortForm (.sequence items) p := by
  rw [decodePortMapping_eq, Except.map_eq_ok_iff]
  simp only [record_sequence_eq_ok_iff]
  cases items with
  | nil =>
      -- the required port has no element
      simp only [fillsPrefix_nil_iff, portMappingFields, List.mem_cons, forall_eq_or_imp]
      constructor
      · rintro ⟨_, ⟨⟨portOptional, -⟩, -⟩, -⟩
        exact absurd portOptional Bool.noConfusion
      · intro form
        cases form
  | cons portNode rest =>
      have split : portMappingFields = portMappingFields.take 1 ++ portMappingFields.drop 1 := rfl
      constructor
      · rintro ⟨parts, fills, rfl⟩
        rw [split] at fills
        obtain ⟨s', setsPort, fillsRest⟩ := fillsPrefix_cons_iff.mp fills
        obtain ⟨q, holds, rfl⟩ := portField_set_eq_ok_iff.mp setsPort
        obtain ⟨samePort, hostFilled, protocolFilled⟩ := fillsPrefix_hostProtocol_iff.mp fillsRest
        rw [samePort]
        exact .sequence holds hostFilled protocolFilled
      · intro form
        cases form with
        | @sequence _ _ port host protocol holds hostFilled protocolFilled =>
            refine ⟨{ port := some port, host, protocol }, ?_, rfl⟩
            rw [split]
            exact fillsPrefix_cons_iff.mpr ⟨_, portField_set_eq_ok_iff.mpr ⟨port, holds, rfl⟩,
              fillsPrefix_hostProtocol_iff.mpr ⟨rfl, hostFilled, protocolFilled⟩⟩

theorem portForm_number_iff {value : Number} {p : Port} :
    PortForm (.number value) p ↔ ∃ q, value = .unsigned q.toNat ∧ p = .number q := by
  constructor
  · rintro (⟨q⟩ | _ | _)
    exact ⟨q, rfl, rfl⟩
  · rintro ⟨q, rfl, rfl⟩
    exact .number q

/-- Reading a port accepts exactly the forms in which data gives one: a bare
number is read as a number first, and anything else as a mapping. -/
theorem decodePort_eq_ok_iff (style : SequenceEnd) (n : Node) (p : Port) :
    decodePort style n = .ok p ↔ PortForm n p := by
  cases read : u16 style n with
  | ok q =>
      obtain rfl := (u16_eq_ok_iff style n q).mp read
      simp only [decodePort, read, Except.ok.injEq, portForm_number_iff, Number.unsigned.injEq,
        UInt16.toNat_inj]
      constructor
      · rintro rfl
        exact ⟨q, rfl, rfl⟩
      · rintro ⟨_, rfl, rfl⟩
        rfl
  | error e =>
      have mapped : decodePort style n = .ok p ↔ decodePortMapping style n = .ok p := by
        simp only [decodePort, read]
        split <;> simp_all only [Except.ok.injEq, reduceCtorEq]
      rw [mapped]
      cases n with
      | mapping entries => exact decodePortMapping_mapping_eq_ok_iff style entries p
      | sequence items => exact decodePortMapping_sequence_eq_ok_iff style items p
      | number value =>
          -- not a port number, since `u16` refused it, and no record either
          rw [portForm_number_iff]
          constructor
          · intro decoded
            simp only [decodePortMapping_eq, Except.map, record, reduceCtorEq] at decoded
          · rintro ⟨q, rfl, -⟩
            have accepted := (u16_eq_ok_iff style _ q).mpr rfl
            rw [read] at accepted
            cases accepted
      | _ =>
          simp only [decodePortMapping_eq, record, Except.map, reduceCtorEq, false_iff]
          intro form
          cases form

/-- The host port that the long form of a port gives: the `host` field of a
mapping, given once as a number, or the second element of a sequence. -/
def Yaml.Node.GivesHost (n : Node) (h : UInt16) : Prop :=
  match n with
  | .mapping entries => ∃ v, portFieldValues entries 1 = [v] ∧ v.HoldsPort h
  | .sequence (_ :: hostNode :: _) => hostNode.HoldsPort h
  | _ => False

theorem holdsHost_eq_some_iff {v : Node} {host : Option UInt16} (holds : v.HoldsHost host)
    (h : UInt16) : host = some h ↔ v.HoldsPort h := by
  cases host with
  | none =>
      cases holds
      simp [Node.HoldsPort]
  | some q =>
      simp only [Node.HoldsHost, Node.HoldsPort] at holds
      simp [Node.HoldsPort, holds, UInt16.toNat_inj, eq_comm]

/-- A port read from data binds a host port exactly when its long form gives one. -/
theorem PortForm.host_eq_some_iff {n : Node} {p : Port} (form : PortForm n p) (h : UInt16) :
    p.host = some h ↔ n.GivesHost h := by
  cases form with
  | number q => simp [Port.host, Node.GivesHost]
  | mapping keys named hostFilled protocolFilled =>
      rcases hostFilled with ⟨given, rfl⟩ | ⟨v, given, holds⟩
      · simp [Port.host, Node.GivesHost, given]
      · simp only [Port.host, Node.GivesHost, given, List.cons.injEq, and_true, exists_eq_left']
        exact holdsHost_eq_some_iff holds h
  | @sequence portNode rest port host protocol holds hostFilled protocolFilled =>
      cases rest with
      | nil =>
          obtain ⟨-, rfl⟩ | ⟨v, given, -⟩ := hostFilled
          · simp [Port.host, Node.GivesHost]
          · simp at given
      | cons hostNode more =>
          rw [List.take_succ_cons, List.take_zero, fieldFilled_cons_iff] at hostFilled
          exact holdsHost_eq_some_iff hostFilled.2 h

/-- Reading a port accepts exactly the forms in which data gives one, and the
port read binds a host port exactly when its long form gives one. -/
theorem decodePort_forms (style : SequenceEnd) (n : Node) (p : Port) :
    (decodePort style n = .ok p ↔ PortForm n p) ∧
      (decodePort style n = .ok p → ∀ h, p.host = some h ↔ n.GivesHost h) :=
  ⟨decodePort_eq_ok_iff style n p, fun decoded =>
    ((decodePort_eq_ok_iff style n p).mp decoded).host_eq_some_iff⟩

/-- A one-element sequence is read as a port mapping, and so is a mapping that
gives the port by its position; a key that is neither a text nor an unsigned
integer is refused rather than skipped. -/
theorem decodePort_accepts_sequences_and_positions :
    decodePort .exact (.sequence [.number (.unsigned 80)]) = .ok (.mapping 80 none none) ∧
      decodePort .exact (.mapping [(.number (.unsigned 0), .number (.unsigned 80))]) =
        .ok (.mapping 80 none none) ∧
      ∃ e, decodePort .exact
        (.mapping [(.string "port", .number (.unsigned 80)), (.bool true, .number (.unsigned 1))]) =
          .error e :=
  ⟨rfl, rfl, ⟨_, rfl⟩⟩

end CiManifest
