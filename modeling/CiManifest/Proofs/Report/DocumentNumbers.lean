import CiManifest.Proofs.Manifest.Load
import CiManifest.Proofs.Pipeline.JsonRoundTrip
import CiManifest.Proofs.Report.FileFindings

/-!
# Two ways of numbering the documents of a file

Loading numbers the documents of a file's stream from zero and skips those
that hold the null value, so a load failure names a document by its place in
the whole stream, skipped documents included. Linting numbers what loading
returned: a rejected resource is named by its place among the resources, after
the skip.

The two numberings are the two orders of numbering and filtering a list.
`index_of_filter_zipIdx_getElem?` relates them: the `k`-th document kept sits
at place `k` plus the number of documents dropped before it. With the loader's
run lemma `loadDocuments_values` this gives `lintFile_document_eq_stream_index_iff`:
the finding of a rejected resource gives its place among the resources, and
that is its document's place in the stream exactly when no null document comes
before it. A file whose first document is empty shows the two apart.
-/

namespace CiManifest

namespace Yaml

/-- Whether a document of a stream holds the null value, which loading skips. -/
def Document.isNullValue (d : Document) : Bool :=
  match d.value with
  | .ok v => v.isNull
  | .error _ => false

end Yaml

/-! ## Numbering, then keeping -/

/-- The `k`-th entry kept from a list numbered from `n` carries the number
`n + k` plus the number of entries dropped before it. -/
theorem index_of_filter_zipIdx_getElem? {α : Type} (dropped : α → Bool) (l : List α) (n k : Nat)
    {a : α} {i : Nat} (kept : ((l.zipIdx n).filter fun e => !dropped e.1)[k]? = some (a, i)) :
    i = n + k + (l.take (i - n)).countP dropped := by
  induction l generalizing n k with
  | nil => simp at kept
  | cons b l ih =>
      rw [List.zipIdx_cons, List.filter_cons] at kept
      -- every later entry is numbered from `n + 1`, so `b` is the one the count may gain
      cases drop : dropped b with
      | true =>
          simp only [drop, Bool.not_true, Bool.false_eq_true, if_false] at kept
          have later := ih (n + 1) k kept
          have shift : i - n = i - (n + 1) + 1 := by omega
          rw [shift, List.take_succ_cons, List.countP_cons, drop, if_pos rfl]
          omega
      | false =>
          simp only [drop, Bool.not_false, if_true] at kept
          cases k with
          | zero =>
              obtain ⟨rfl, rfl⟩ := Prod.mk.inj (Option.some.inj kept).symm
              simp
          | succ k =>
              have later := ih (n + 1) k (by simpa using kept)
              have shift : i - n = i - (n + 1) + 1 := by omega
              rw [shift, List.take_succ_cons, List.countP_cons, drop]
              simp only [Bool.false_eq_true, if_false, Nat.add_zero]
              omega

theorem forall₂_getElem?_left {α β : Type} {R : α → β → Prop} {l₁ : List α} {l₂ : List β}
    (related : List.Forall₂ R l₁ l₂) {k : Nat} {a : α} (found : l₁[k]? = some a) :
    ∃ b, l₂[k]? = some b ∧ R a b := by
  induction related generalizing k with
  | nil => simp at found
  | @cons x y _ _ head _ ih =>
      cases k with
      | zero =>
          cases found
          exact ⟨y, rfl, head⟩
      | succ k => exact ih found

/-! ## The documents a stream loads from -/

/-- A document that reads without failing is null exactly when it gives no
resource. -/
theorem DocumentReads.isNullValue_eq {index : Nat} {d : Yaml.Document} {o : Option Resource}
    (reads : DocumentReads index d (.ok o)) : d.isNullValue = o.isNone := by
  cases reads with
  | null value null =>
      rw [Yaml.Document.isNullValue, value]
      exact null
  | resource value null =>
      rw [Yaml.Document.isNullValue, value]
      exact null

/-- A loaded stream gives its resources one for one from its documents that
are not null, each numbered by its place in the stream. -/
theorem loadDocuments_values (index : Nat) (ds : List Yaml.Document) (rs : List Resource)
    (loaded : loadDocuments index ds = .ok rs) :
    List.Forall₂ (fun r (e : Yaml.Document × Nat) => DocumentReads e.2 e.1 (.ok (some r))) rs
      ((ds.zipIdx index).filter fun e => !e.1.isNullValue) := by
  induction ds generalizing index rs with
  | nil =>
      cases loaded
      exact .nil
  | cons d rest ih =>
      obtain ⟨first, firstLoads, others, restLoad, joined⟩ := by
        simpa only [loadDocuments_cons, Except.bind_eq_ok_iff, Except.ok.injEq] using loaded
      have reads := loadDocument_reads index d
      rw [firstLoads] at reads
      rw [List.zipIdx_cons, List.filter_cons, ← joined, reads.isNullValue_eq]
      -- a null document gives nothing and is dropped; any other gives its resource
      cases first with
      | none => exact ih (index + 1) others restLoad
      | some r => exact .cons reads (ih (index + 1) others restLoad)

namespace Report

open Lint

/-- The finding of a rejected resource at place `k` among a file's resources
is numbered `k`. The resource was read from the `k`-th document of the stream
that is not null, at place `i` in the stream, where `i` is `k` plus the null
documents before it; so the finding gives the document's place in the stream
exactly when no null document comes before it. -/
theorem lintFile_document_eq_stream_index_iff (ws : Workspace) (trusted : Bool)
    (path text : String) (read : ws.readText path = .ok text) (resources : List Resource)
    (loaded : loadManifest text = .ok resources) (k : Nat) (r : Resource)
    (atK : resources[k]? = some r) (v : Violation) (rejected : lint r trusted = .error v) :
    ∃ d i f, ((Yaml.documents text).zipIdx.filter fun e => !e.1.isNullValue)[k]? = some (d, i) ∧
      DocumentReads i d (.ok (some r)) ∧
      f ∈ (lintFile ws trusted path).findings ∧ DescribesRejection path k r v f ∧
      i = k + ((Yaml.documents text).take i).countP Yaml.Document.isNullValue ∧
      (f.document = some i ↔ ∀ d' ∈ (Yaml.documents text).take i, d'.isNullValue = false) := by
  obtain ⟨⟨d, i⟩, kept, reads⟩ :=
    forall₂_getElem?_left (loadDocuments_values 0 _ resources loaded) atK
  -- the finding is the one the file's findings pair with the rejected entry `(r, k)`
  have entry : (r, k) ∈ resources.zipIdx.filter fun entry => rejects trusted entry.1 := by
    rw [List.mem_filter]
    exact ⟨List.mem_zipIdx_iff_getElem?.mpr atK, by simp [rejects, rejected]⟩
  obtain ⟨f, mem, v', rejected', describes⟩ :=
    forall₂_exists_of_mem (List.Forall₂.flip (R := flip _)
      (resourceFindings_forall₂ path trusted 0 resources)) entry
  cases rejected.symm.trans rejected'
  have position := index_of_filter_zipIdx_getElem? Yaml.Document.isNullValue _ 0 k kept
  simp only [Nat.zero_add, Nat.sub_zero] at position
  refine ⟨d, i, f, kept, reads, ?_, describes, position, ?_⟩
  · rw [lintFile, loadFile, read]
    simpa only [loaded, lintLoaded] using mem
  · rw [describes.document, Option.some.injEq]
    have nulls := List.countP_eq_zero (p := Yaml.Document.isNullValue)
      (l := (Yaml.documents text).take i)
    simp only [Bool.not_eq_true] at nulls
    rw [← nulls]
    omega

/-! ## A file whose first document is empty

Its second document is a pipeline with one unnamed step, its keys quoted. -/

theorem readText_empty_then_unnamed_step :
    ({ entries := [(["pipeline.yml"],
        .file "---\n---\n\"kind\": \"pipeline\"\n\"steps\": [{}]\n".toUTF8.data)] } :
      Workspace).readText "pipeline.yml" =
      .ok "---\n---\n\"kind\": \"pipeline\"\n\"steps\": [{}]\n" := by
  cbv

theorem loadManifest_empty_then_unnamed_step :
    loadManifest "---\n---\n\"kind\": \"pipeline\"\n\"steps\": [{}]\n" =
      .ok [.pipeline { steps := [{}] }] := by
  cbv

/-- A file whose first document is empty and whose second is a pipeline with
an unnamed step: the pipeline is at place 0 among the resources and its
document at place 1 in the stream, after one null document. -/
theorem lintFile_document_after_empty_document :
    let text := "---\n---\n\"kind\": \"pipeline\"\n\"steps\": [{}]\n"
    let ws : Workspace := { entries := [(["pipeline.yml"], .file text.toUTF8.data)] }
    let r : Resource := .pipeline { steps := [{}] }
    ws.readText "pipeline.yml" = .ok text ∧ loadManifest text = .ok [r] ∧ [r][0]? = some r ∧
      lint r false = .error .missingName ∧
      ∃ d i f, ((Yaml.documents text).zipIdx.filter fun e => !e.1.isNullValue)[0]? = some (d, i) ∧
        DocumentReads i d (.ok (some r)) ∧
        f ∈ (lintFile ws false "pipeline.yml").findings ∧
        DescribesRejection "pipeline.yml" 0 r .missingName f ∧
        i = 0 + ((Yaml.documents text).take i).countP Yaml.Document.isNullValue ∧
        (f.document = some i ↔ ∀ d' ∈ (Yaml.documents text).take i, d'.isNullValue = false) := by
  intro text ws r
  have rejected : lint r false = .error .missingName := by decide
  exact ⟨readText_empty_then_unnamed_step, loadManifest_empty_then_unnamed_step, rfl, rejected,
    lintFile_document_eq_stream_index_iff ws false "pipeline.yml" text
      readText_empty_then_unnamed_step [r] loadManifest_empty_then_unnamed_step 0 r rfl
      .missingName rejected⟩

/-- The same file, read as a whole: it loads into one pipeline, read from
document 1 of the stream after the empty document 0, and the finding for that
pipeline is numbered 0, not 1. -/
theorem lintFile_numbers_resource_not_document :
    let text := "---\n---\n\"kind\": \"pipeline\"\n\"steps\": [{}]\n"
    let ws : Workspace := { entries := [(["pipeline.yml"], .file text.toUTF8.data)] }
    loadManifest text = .ok [.pipeline { steps := [{}] }] ∧
      (∃ d, (Yaml.documents text)[0]? = some d ∧ DocumentReads 0 d (.ok none)) ∧
      (∃ d, (Yaml.documents text)[1]? = some d ∧
        DocumentReads 1 d (.ok (some (.pipeline { steps := [{}] })))) ∧
      (lintFile ws false "pipeline.yml").findings.map Finding.document = [some 0] := by
  intro text ws
  have loaded : loadManifest text = .ok [.pipeline { steps := [{}] }] :=
    loadManifest_empty_then_unnamed_step
  have values : (Yaml.documents text).map (·.value) =
      [.ok .null, .ok (.mapping [(.string "kind", .string "pipeline"),
        (.string "steps", .sequence [.mapping []])])] := by
    cbv
  obtain ⟨d0, d1, docs, null, pipeline⟩ : ∃ d0 d1, Yaml.documents text = [d0, d1] ∧
      d0.value = .ok .null ∧ d1.value = .ok (.mapping [(.string "kind", .string "pipeline"),
        (.string "steps", .sequence [.mapping []])]) := by
    simp only [List.map_eq_cons_iff, List.map_eq_nil_iff] at values
    obtain ⟨d0, rest, split, null, d1, rest', rfl, pipeline, rfl⟩ := values
    exact ⟨d0, d1, split, null, pipeline⟩
  -- the loader's run lemma pairs the pipeline with the one document that is not null
  have streamLoaded : loadDocuments 0 [d0, d1] = .ok [.pipeline { steps := [{}] }] := by
    rw [← docs]
    exact loaded
  have kept := loadDocuments_values 0 [d0, d1] _ streamLoaded
  have dropped : d0.isNullValue = true := by
    rw [Yaml.Document.isNullValue, null]
    rfl
  have value : d1.isNullValue = false := by
    rw [Yaml.Document.isNullValue, pipeline]
    rfl
  simp only [List.zipIdx_cons, List.zipIdx_nil, List.filter_cons, dropped, value,
    Bool.not_true, Bool.not_false, Bool.false_eq_true, if_false, if_true, List.filter_nil,
    List.forall₂_cons, List.Forall₂.nil, and_true] at kept
  have loadedFile : loadFile ws "pipeline.yml" = .ok [.pipeline { steps := [{}] }] := by
    rw [loadFile, readText_empty_then_unnamed_step]
    exact loaded
  refine ⟨loaded, ⟨d0, by rw [docs]; rfl, .null null rfl⟩, ⟨d1, by rw [docs]; rfl, kept⟩, ?_⟩
  rw [lintFile, loadedFile]
  decide

end Report

end CiManifest
