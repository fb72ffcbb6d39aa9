import Mathlib.Data.List.Forall2
import CiManifest.Manifest

/-!
# Loading a manifest, document by document

A manifest text is cut into a stream of documents, and each document is read
on its own: a document that is not a YAML value fails as malformed, a null
value is skipped, any other value must have a `kind` entry before its merge
keys are applied, and must then merge and read as a resource.
`DocumentReads index d outcome` states these rules as a relation; the loader's
`loadDocument` computes exactly that outcome.

Over the stream the loader stops at the first document that fails. So a
manifest loads when every document reads, with one resource per document that
is not null, in stream order; and it fails with the failure of the first
failing document, numbered by its place in the stream, skipped null documents
included.
-/

namespace CiManifest

open Decode

/-! ## `Except` inversion -/

theorem Except.bind_eq_ok_iff {ε α β : Type} {x : Except ε α} {f : α → Except ε β} {b : β} :
    x.bind f = .ok b ↔ ∃ a, x = .ok a ∧ f a = .ok b := by
  cases x <;> simp [Except.bind]

theorem Except.bind_eq_error_iff {ε α β : Type} {x : Except ε α} {f : α → Except ε β} {e : ε} :
    x.bind f = .error e ↔ x = .error e ∨ ∃ a, x = .ok a ∧ f a = .error e := by
  cases x <;> simp [Except.bind]

/-! ## One document -/

/-- How the document at `index` of a stream reads: a resource, nothing for a
null value, or the failure that stops loading. -/
inductive DocumentReads (index : Nat) (d : Yaml.Document) :
    Except LoadFailure (Option Resource) → Prop where
  | malformed {e : Yaml.LoadError} : d.value = .error e →
      DocumentReads index d (.error (.malformed e))
  | null {v : Yaml.Node} : d.value = .ok v → v.isNull = true →
      DocumentReads index d (.ok none)
  | missingKind {v : Yaml.Node} : d.value = .ok v → v.isNull = false → v.get? "kind" = none →
      DocumentReads index d (.error (.missingKind index))
  | mergeFails {v : Yaml.Node} {e : Yaml.MergeError} : d.value = .ok v → v.isNull = false →
      (v.get? "kind").isSome → v.applyMerge = .error e →
      DocumentReads index d (.error (.document index e.message))
  | decodeFails {v merged : Yaml.Node} {e : Mismatch} : d.value = .ok v → v.isNull = false →
      (v.get? "kind").isSome → v.applyMerge = .ok merged → decodeResource .exact merged = .error e →
      DocumentReads index d (.error (.document index (e.message Wording.mapping)))
  | resource {v merged : Yaml.Node} {r : Resource} : d.value = .ok v → v.isNull = false →
      (v.get? "kind").isSome → v.applyMerge = .ok merged → decodeResource .exact merged = .ok r →
      DocumentReads index d (.ok (some r))

theorem loadDocument_reads (index : Nat) (d : Yaml.Document) :
    DocumentReads index d (loadDocument index d) := by
  simp only [loadDocument, Except.mapError, bind, Except.bind, pure, Except.pure]
  -- one case per step of the loader: value, null, kind, merge, decoding
  cases value : d.value with
  | error e => exact .malformed value
  | ok v =>
      dsimp only
      cases null : v.isNull with
      | true => exact .null value null
      | false =>
          cases kind : v.get? "kind" with
          | none => exact .missingKind value null kind
          | some k =>
              have hasKind : (v.get? "kind").isSome := by simp [kind]
              cases merge : v.applyMerge with
              | error e => exact .mergeFails value null hasKind merge
              | ok merged =>
                  dsimp only
                  cases decode : decodeResource .exact merged with
                  | error e => exact .decodeFails value null hasKind merge decode
                  | ok r => exact .resource value null hasKind merge decode

theorem DocumentReads.loadDocument_eq {index : Nat} {d : Yaml.Document}
    {outcome : Except LoadFailure (Option Resource)} (reads : DocumentReads index d outcome) :
    loadDocument index d = outcome := by
  cases reads with
  | malformed value => simp [loadDocument, value, Except.mapError, bind, Except.bind]
  | null value null =>
      simp [loadDocument, value, null, Except.mapError, bind, Except.bind, pure, Except.pure]
  | missingKind value null kind =>
      simp [loadDocument, value, null, kind, Except.mapError, bind, Except.bind, throw, throwThe,
        MonadExceptOf.throw]
  | mergeFails value null kind merge =>
      simp [loadDocument, value, null, Option.isSome_iff_ne_none.mp kind, merge, Except.mapError,
        bind, Except.bind]
  | decodeFails value null kind merge decode =>
      simp [loadDocument, value, null, Option.isSome_iff_ne_none.mp kind, merge, decode,
        Except.mapError, bind, Except.bind]
  | resource value null kind merge decode =>
      simp [loadDocument, value, null, Option.isSome_iff_ne_none.mp kind, merge, decode,
        Except.mapError, bind, Except.bind, pure, Except.pure]

/-- The loader reads a document exactly as the rules say. -/
theorem loadDocument_eq_iff {index : Nat} {d : Yaml.Document}
    {outcome : Except LoadFailure (Option Resource)} :
    loadDocument index d = outcome ↔ DocumentReads index d outcome :=
  ⟨fun loaded => loaded ▸ loadDocument_reads index d, DocumentReads.loadDocument_eq⟩

/-! ## The stream -/

/-- Documents numbered from `index` load when each of them reads, and give
the resources of those that are not null, in order. -/
theorem loadDocuments_eq_ok_iff (index : Nat) (ds : List Yaml.Document) (rs : List Resource) :
    loadDocuments index ds = .ok rs ↔
      ∃ outs : List (Option Resource),
        List.Forall₂ (fun (di : Yaml.Document × Nat) o => loadDocument di.2 di.1 = .ok o)
          (ds.zipIdx index) outs ∧ rs = outs.filterMap id := by
  induction ds generalizing index rs with
  | nil => simp [loadDocuments, eq_comm]
  | cons d rest ih =>
      simp only [loadDocuments_cons, Except.bind_eq_ok_iff, Except.ok.injEq, ih,
        List.zipIdx_cons, List.forall₂_cons_left_iff]
      constructor
      · rintro ⟨first, firstLoads, others, ⟨outs, restLoad, rfl⟩, rfl⟩
        refine ⟨first :: outs, ⟨first, outs, firstLoads, restLoad, rfl⟩, ?_⟩
        cases first <;> rfl
      · rintro ⟨_, ⟨first, outs, firstLoads, restLoad, rfl⟩, rfl⟩
        refine ⟨first, firstLoads, outs.filterMap id, ⟨outs, restLoad, rfl⟩, ?_⟩
        cases first <;> rfl

/-- Documents numbered from `index` fail with the failure of the first
document that does not read; every document before it reads. -/
theorem loadDocuments_eq_error_iff (index : Nat) (ds : List Yaml.Document) (f : LoadFailure) :
    loadDocuments index ds = .error f ↔
      ∃ i d, ds[i]? = some d ∧ loadDocument (index + i) d = .error f ∧
        ∀ j < i, ∃ d' o, ds[j]? = some d' ∧ loadDocument (index + j) d' = .ok o := by
  induction ds generalizing index with
  | nil => simp [loadDocuments]
  | cons d rest ih =>
      simp only [loadDocuments_cons, Except.bind_eq_error_iff, ih, reduceCtorEq, and_false,
        exists_false, or_false]
      -- the failing document is the first one, or one of the rest, numbered one further
      constructor
      · rintro (firstFails | ⟨first, firstLoads, i, later, found, fails, before⟩)
        · exact ⟨0, d, rfl, firstFails, fun j earlier => absurd earlier (Nat.not_lt_zero j)⟩
        · refine ⟨i + 1, later, found, by rwa [← Nat.add_assoc, Nat.add_right_comm], ?_⟩
          intro j earlier
          cases j with
          | zero => exact ⟨d, first, rfl, firstLoads⟩
          | succ j =>
              obtain ⟨other, outcome, foundOther, loads⟩ := before j (by omega)
              exact ⟨other, outcome, foundOther, by rwa [← Nat.add_assoc, Nat.add_right_comm]⟩
      · rintro ⟨i, failing, found, fails, before⟩
        cases i with
        | zero =>
            cases found
            exact .inl fails
        | succ i =>
            obtain ⟨first, outcome, foundFirst, firstLoads⟩ := before 0 (Nat.zero_lt_succ i)
            cases foundFirst
            refine .inr ⟨outcome, firstLoads, i, failing, found, ?_, ?_⟩
            · rwa [Nat.add_right_comm, Nat.add_assoc]
            · intro j earlier
              obtain ⟨other, result, foundOther, loads⟩ := before (j + 1) (by omega)
              exact ⟨other, result, foundOther, by rwa [Nat.add_right_comm, Nat.add_assoc]⟩

/-- A manifest loads exactly when every document of its stream reads, giving
one resource per document that is not null, in stream order; otherwise it
fails with the failure of the first document that does not read, numbered
from zero over the whole stream. -/
theorem loadManifest_reads_documents_in_order (text : String) :
    (∀ rs, loadManifest text = .ok rs ↔
      ∃ outs : List (Option Resource),
        List.Forall₂ (fun (di : Yaml.Document × Nat) o => DocumentReads di.2 di.1 (.ok o))
          (Yaml.documents text).zipIdx outs ∧ rs = outs.filterMap id) ∧
    (∀ f, loadManifest text = .error f ↔
      ∃ i d, (Yaml.documents text)[i]? = some d ∧ DocumentReads i d (.error f) ∧
        ∀ j < i, ∃ d' o, (Yaml.documents text)[j]? = some d' ∧ DocumentReads j d' (.ok o)) := by
  constructor
  · intro rs
    simp only [loadManifest, loadDocuments_eq_ok_iff, loadDocument_eq_iff]
  · intro f
    simp only [loadManifest, loadDocuments_eq_error_iff, Nat.zero_add, loadDocument_eq_iff]

end CiManifest
