import CiManifest.Decode.Decoder

/-!
# Reading records

A record is read from a mapping entry by entry, or from a sequence element by
element (`Decode.record`). The reading loops keep little state: the record
filled so far, and for a mapping the positions of the fields already named.

Writers give a record's fields in field order, each under a name that finds
it, and leave out only fields that are not required. `FillsInOrder` says what
such entries do, one field at a time, and `record_mapping_of_fillsInOrder`
reads them back: the loop never meets a field twice, since every position it
has seen lies before the next one, and no required field is left out, since
every position before the next one that is required has been seen.

From a sequence, the elements give the first fields in order. `FillsPrefix`
says what they do, and `record_sequence_eq_ok_iff` shows that reading accepts a
sequence exactly when its elements set the first fields so, with no required
field after the last one given.
-/

namespace CiManifest

theorem Except.map_eq_ok_iff {ε α β : Type} {f : α → β} {x : Except ε α} {b : β} :
    x.map f = .ok b ↔ ∃ a, x = .ok a ∧ f a = b := by
  cases x <;> simp [Except.map]

namespace Decode

open Yaml

variable {σ : Type} {style : SequenceEnd} {fields : List (Field σ)}

/-! ## Entries in field order -/

/-- Entries, keyed by text, that give the fields from position `i` on in field
order, taking the record from `s` to `t`: each entry's key names the next field
given and sets it, and the fields passed over are not required. -/
inductive FillsInOrder (style : SequenceEnd) (fields : List (Field σ)) :
    Nat → σ → List (String × Node) → σ → Prop
  /-- Every field has been given or passed over. -/
  | done {s : σ} : FillsInOrder style fields fields.length s [] s
  /-- The next entry names the field at `i` and sets it. -/
  | given {i : Nat} {f : Field σ} {key : String} {v : Node} {s s' t : σ}
      {rest : List (String × Node)} :
      fields[i]? = some f → fieldIndex fields (.string key) = .ok (some i) →
      f.set style v s = .ok s' → FillsInOrder style fields (i + 1) s' rest t →
      FillsInOrder style fields i s ((key, v) :: rest) t
  /-- The field at `i` is not required, and no entry gives it. -/
  | passed {i : Nat} {f : Field σ} {s t : σ} {entries : List (String × Node)} :
      fields[i]? = some f → f.required = false → FillsInOrder style fields (i + 1) s entries t →
      FillsInOrder style fields i s entries t

/-- Every required field is among the positions `seen`. -/
def RequiredSeen (fields : List (Field σ)) (seen : List Nat) : Prop :=
  ∀ j f, fields[j]? = some f → f.required = true → j ∈ seen

/-- No required field is missing once every required position has been seen. -/
theorem missingRequired_eq_none {seen : List Nat} (complete : RequiredSeen fields seen) :
    missingRequired fields seen = none := by
  simp only [missingRequired, Option.map_eq_none_iff, List.find?_eq_none]
  rintro ⟨f, j⟩ mem
  have found := List.mk_mem_zipIdx_iff_getElem?.mp mem
  cases required : f.required with
  | false => simp
  | true => simp [complete j f found required]

/-- A run of the mapping loop over entries in field order: starting with
positions seen all before `i` and every required one before `i` seen, it ends
with the record `t` and every required position seen. -/
theorem fillEntries_of_fillsInOrder {i : Nat} {s t : σ} {entries : List (String × Node)}
    (fills : FillsInOrder style fields i s entries t) (seen : List Nat)
    (before : ∀ j ∈ seen, j < i)
    (covered : ∀ j f, j < i → fields[j]? = some f → f.required = true → j ∈ seen) :
    ∃ seen', fillEntries style fields (s, seen) (entries.map fun e => (.string e.1, e.2)) =
      .ok (t, seen') ∧ RequiredSeen fields seen' := by
  induction fills generalizing seen with
  | done =>
      refine ⟨seen, fillEntries_nil .., fun j f field required => ?_⟩
      exact covered j f (List.getElem?_eq_some_iff.mp field).1 field required
  | @given i f key v s s' t rest field named sets _ ih =>
      -- the position named lies after every position seen, so it is fresh
      have fresh : i ∉ seen := fun mem => Nat.lt_irrefl i (before i mem)
      have before' : ∀ j ∈ i :: seen, j < i + 1 := by
        rintro j (_ | ⟨_, mem⟩)
        · exact Nat.lt_succ_self i
        · exact Nat.lt_succ_of_lt (before j mem)
      have covered' : ∀ j g, j < i + 1 → fields[j]? = some g → g.required = true →
          j ∈ i :: seen := by
        intro j g below found required
        rcases Nat.lt_succ_iff_lt_or_eq.mp below with earlier | rfl
        · exact List.mem_cons_of_mem i (covered j g earlier found required)
        · exact List.mem_cons_self
      obtain ⟨seen', filled, complete⟩ := ih (i :: seen) before' covered'
      refine ⟨seen', ?_, complete⟩
      rw [List.map_cons, fillEntries_cons_fresh named fresh field, sets]
      exact filled
  | @passed i f s t entries field optional _ ih =>
      have covered' : ∀ j g, j < i + 1 → fields[j]? = some g → g.required = true → j ∈ seen := by
        intro j g below found required
        rcases Nat.lt_succ_iff_lt_or_eq.mp below with earlier | rfl
        · exact covered j g earlier found required
        · -- the field passed over is the one found, and it is not required
          rw [field, Option.some.injEq] at found
          rw [← found, optional] at required
          exact absurd required Bool.false_ne_true
      exact ih seen (fun j mem => Nat.lt_succ_of_lt (before j mem)) covered'

/-- A mapping whose entries give the fields in field order, under names that
find them, and leave out only fields that are not required, reads as the
record those entries set. -/
theorem record_mapping_of_fillsInOrder {name : String} {init t : σ}
    {entries : List (String × Node)} (fills : FillsInOrder style fields 0 init entries t) :
    record name fields init style (.mapping (entries.map fun e => (.string e.1, e.2))) = .ok t := by
  obtain ⟨seen, filled, complete⟩ :=
    fillEntries_of_fillsInOrder fills [] (fun _ mem => absurd mem List.not_mem_nil)
      fun _ _ below => absurd below (Nat.not_lt_zero _)
  simp only [record, filled, missingRequired_eq_none complete]

/-! ## Sequences -/

/-- Elements that give the first fields in order, taking the record from `s`
to `t`: each element sets its field, and no field after the last one given is
required. -/
inductive FillsPrefix (style : SequenceEnd) : List (Field σ) → σ → List Node → σ → Prop
  /-- No element is left, and the fields left are not required. -/
  | rest {fields : List (Field σ)} {s : σ} :
      (∀ f ∈ fields, f.required = false) → FillsPrefix style fields s [] s
  /-- The next element sets the next field. -/
  | given {f : Field σ} {fields : List (Field σ)} {v : Node} {items : List Node} {s s' t : σ} :
      f.set style v s = .ok s' → FillsPrefix style fields s' items t →
      FillsPrefix style (f :: fields) s (v :: items) t

theorem fillsPrefix_nil_iff {s t : σ} :
    FillsPrefix style fields s [] t ↔ (∀ f ∈ fields, f.required = false) ∧ t = s := by
  constructor
  · rintro ⟨optional⟩
    exact ⟨optional, rfl⟩
  · rintro ⟨optional, rfl⟩
    exact .rest optional

theorem fillsPrefix_cons_iff {f : Field σ} {v : Node} {items : List Node} {s t : σ} :
    FillsPrefix style (f :: fields) s (v :: items) t ↔
      ∃ s', f.set style v s = .ok s' ∧ FillsPrefix style fields s' items t := by
  constructor
  · intro fills
    cases fills with
    | given sets rest => exact ⟨_, sets, rest⟩
  · rintro ⟨s', sets, rest⟩
    exact .given sets rest

/-- Elements that fill a prefix of the fields are no more than the fields. -/
theorem FillsPrefix.length_le {fields : List (Field σ)} {s t : σ} {items : List Node}
    (fills : FillsPrefix style fields s items t) : items.length ≤ fields.length := by
  induction fills with
  | rest => exact Nat.zero_le _
  | given _ _ ih => exact Nat.succ_le_succ ih

/-- The sequence loop, over no more elements than fields, ends with `t`
exactly when the elements fill a prefix of the fields that far. -/
theorem fillItems_eq_ok_iff {name : String} {count i : Nat} {s t : σ} {items : List Node}
    (fits : items.length ≤ fields.length) :
    fillItems style name count fields i s items = .ok t ↔ FillsPrefix style fields s items t := by
  induction fields generalizing i s items with
  | nil =>
      obtain rfl : items = [] := List.eq_nil_of_length_eq_zero (Nat.le_zero.mp fits)
      rw [fillItems_nil, fillsPrefix_nil_iff, Except.ok.injEq, @eq_comm _ s t]
      simp
  | cons f rest ih =>
      cases items with
      | nil =>
          rw [fillItems_cons_nil, fillsPrefix_nil_iff]
          -- a missing element is an error exactly when its field is required
          cases required : f.required with
          | true => simp [required]
          | false =>
              have loop : fillItems style name count rest (i + 1) s [] = .ok t ↔
                  FillsPrefix style rest s [] t :=
                ih (Nat.zero_le _)
              simp only [Bool.false_eq_true, if_false, loop, fillsPrefix_nil_iff, List.mem_cons,
                forall_eq_or_imp, required, true_and]
      | cons v more =>
          rw [fillItems_cons_cons, fillsPrefix_cons_iff]
          cases sets : f.set style v s with
          | error e => simp [Except.bind]
          | ok s' =>
              simp only [Except.bind, ih (Nat.le_of_succ_le_succ fits), Except.ok.injEq,
                exists_eq_left']

/-- Reading a record from a sequence accepts it exactly when the elements fill
a prefix of the fields, leaving no required field after them; so there are no
more elements than fields. -/
theorem record_sequence_eq_ok_iff {name : String} {init t : σ} {items : List Node} :
    record name fields init style (.sequence items) = .ok t ↔
      FillsPrefix style fields init items t := by
  simp only [record]
  by_cases fits : items.length ≤ fields.length
  · have notLonger : ¬items.length > fields.length := Nat.not_lt.mpr fits
    have loop : fillItems style name fields.length fields 0 init items = .ok t ↔
        FillsPrefix style fields init items t :=
      fillItems_eq_ok_iff fits
    rw [← loop]
    cases fillItems style name fields.length fields 0 init items <;> simp [notLonger]
  · -- too many elements: the loop's result is refused whatever it is
    have longer : items.length > fields.length := Nat.lt_of_not_le fits
    have unfilled : ¬FillsPrefix style fields init items t := fun fills => fits fills.length_le
    cases fillItems style name fields.length fields 0 init items <;> simp [longer, unfilled]

end Decode

end CiManifest
