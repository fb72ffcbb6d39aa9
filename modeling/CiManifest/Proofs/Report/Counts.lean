import Mathlib
import CiManifest.Report.Summary

/-!
# What a report counts

A report is read in several ways that are computed apart: the number of files
and of resources from the file results, the verdict from the findings, the
files that passed from each file's own findings, and the split of the findings
into lint violations and load failures by the rule each one names.

They agree because of how a file is linted. A file that cannot be loaded gives
exactly one finding, under the parse rule. A loaded file gives one finding per
rejected resource, each under the rule of its violation, and no violation is
reported under the parse rule. The main result is `runLint_counts`.
-/

namespace CiManifest.Lint

/-- No violation is reported under the parse rule. -/
theorem Violation.ruleId_ne_parseErrorRuleId (v : Violation) : v.ruleId ≠ parseErrorRuleId := by
  cases v with
  | untrusted p => cases p <;> simp [Violation.ruleId, Privilege.ruleId, parseErrorRuleId]
  | _ => simp [Violation.ruleId, parseErrorRuleId]

end CiManifest.Lint

namespace CiManifest.Report

open Lint

/-- Whether linting rejects a resource. -/
def rejects (trusted : Bool) (r : Resource) : Bool :=
  match lint r trusted with
  | .ok () => false
  | .error _ => true

theorem rejects_eq_false_iff {trusted : Bool} {r : Resource} :
    rejects trusted r = false ↔ lint r trusted = .ok () := by
  unfold rejects
  split <;> simp_all

/-- The number of resources left rejected by loading a file: none when the file
did not load. -/
def rejectedCount (trusted : Bool) : Except LoadFailure (List Resource) → Nat
  | .ok resources => (resources.filter (rejects trusted)).length
  | .error _ => 0

/-! ## Findings of one file -/

@[simp]
theorem Finding.ofViolation_isLoadFailure (v : Violation) (file : String) (document : Nat)
    (r : Resource) : (Finding.ofViolation v file document r).isLoadFailure = false := by
  simpa [Finding.ofViolation, Finding.isLoadFailure] using v.ruleId_ne_parseErrorRuleId

@[simp]
theorem Finding.ofLoadFailure_isLoadFailure (e : LoadFailure) (file : String) :
    (Finding.ofLoadFailure e file).isLoadFailure = true := by
  simp [Finding.ofLoadFailure, Finding.isLoadFailure]

/-- The resource findings are the rejected resources, one each, and none of
them is a load failure. -/
theorem resourceFindings_filter (file : String) (trusted : Bool) (index : Nat)
    (resources : List Resource) :
    (resourceFindings file trusted index resources).filter (!·.isLoadFailure) =
        resourceFindings file trusted index resources ∧
      (resourceFindings file trusted index resources).length =
        (resources.filter (rejects trusted)).length := by
  induction resources generalizing index with
  | nil => simp [resourceFindings]
  | cons r rest ih =>
      obtain ⟨kept, counted⟩ := ih (index + 1)
      unfold resourceFindings
      cases verdict : lint r trusted with
      | ok u => simp [rejects, verdict, kept, counted]
      | error v => simp [rejects, verdict, kept, counted]

theorem resourceFindings_eq_nil_iff (file : String) (trusted : Bool) (index : Nat)
    (resources : List Resource) :
    resourceFindings file trusted index resources = [] ↔ ∀ r ∈ resources, lint r trusted = .ok () := by
  rw [← List.length_eq_zero_iff, (resourceFindings_filter file trusted index resources).2,
    List.length_eq_zero_iff, List.filter_eq_nil_iff]
  simp [rejects_eq_false_iff]

/-- How the findings of a file result split, with `rejected` the number of its
rejected resources. -/
structure Tally (f : FileResult) (rejected : Nat) : Prop where
  loadFailures : (f.findings.filter Finding.isLoadFailure).length = if f.parseFailed then 1 else 0
  violations : (f.findings.filter (!·.isLoadFailure)).length = rejected
  rejected_le : rejected ≤ f.resourcesLinted

theorem lintLoaded_tally (file : String) (trusted : Bool)
    (loaded : Except LoadFailure (List Resource)) :
    Tally (lintLoaded file trusted loaded) (rejectedCount trusted loaded) := by
  cases loaded with
  | error e =>
      refine ⟨?_, ?_, ?_⟩
      · simp [lintLoaded]
      · simp [lintLoaded, rejectedCount]
      · simp [rejectedCount]
  | ok resources =>
      obtain ⟨kept, counted⟩ := resourceFindings_filter file trusted 0 resources
      have noFailure : (resourceFindings file trusted 0 resources).filter Finding.isLoadFailure = [] := by
        rw [← kept, List.filter_filter]
        simp
      refine ⟨?_, ?_, ?_⟩
      · simp [lintLoaded, noFailure]
      · simp only [lintLoaded, rejectedCount, kept, counted]
      · exact List.length_filter_le _ _

/-- A file has no finding exactly when it loads and each of its resources
passes. -/
theorem lintLoaded_findings_eq_nil_iff (file : String) (trusted : Bool)
    (loaded : Except LoadFailure (List Resource)) :
    (lintLoaded file trusted loaded).findings = [] ↔
      ∃ resources, loaded = .ok resources ∧ ∀ r ∈ resources, lint r trusted = .ok () := by
  cases loaded with
  | error e => simp [lintLoaded]
  | ok resources => simp [lintLoaded, resourceFindings_eq_nil_iff]

/-! ## Counts of any report -/

theorem resourcesLinted_eq_sum (r : Report) :
    r.resourcesLinted = (r.files.map FileResult.resourcesLinted).sum := by
  rw [resourcesLinted, List.sum_eq_foldl_nat]

/-- Every file passes exactly when the report has no finding. -/
theorem filesPassed_eq_filesScanned_iff (r : Report) :
    r.filesPassed = r.filesScanned ↔ r.findings = [] := by
  simp [filesPassed, filesScanned, findings, List.length_filter_eq_length_iff,
    FileResult.passed]

/-- The findings under a test, counted file by file. -/
theorem findings_filter_length (r : Report) (test : Finding → Bool) :
    (r.findings.filter test).length = (r.files.map fun f => (f.findings.filter test).length).sum := by
  rw [findings, List.filter_flatMap, List.length_flatMap]

theorem countByKind_eq (r : Report) :
    r.countByKind = ((r.findings.filter (!·.isLoadFailure)).length,
      (r.findings.filter Finding.isLoadFailure).length) := by
  rw [countByKind, List.length_eq_length_filter_add Finding.isLoadFailure]
  simp

/-- When the files are the results of some items, each result with its own
`Tally`, the load failures count the files that failed to load and the
violations count the rejected resources. -/
theorem countByKind_of_tally {α : Type} (r : Report) (items : List α) (result : α → FileResult)
    (rejected : α → Nat) (files_eq : r.files = items.map result)
    (tally : ∀ a ∈ items, Tally (result a) (rejected a)) :
    r.countByKind = ((items.map rejected).sum, (r.files.filter FileResult.parseFailed).length) := by
  have violations : (items.map fun a => ((result a).findings.filter (!·.isLoadFailure)).length) =
      items.map rejected :=
    List.map_congr_left fun a mem => (tally a mem).violations
  have loadFailures : (items.map fun a => ((result a).findings.filter Finding.isLoadFailure).length) =
      items.map fun a => if (result a).parseFailed then 1 else 0 :=
    List.map_congr_left fun a mem => (tally a mem).loadFailures
  rw [countByKind_eq, findings_filter_length, findings_filter_length, files_eq]
  simp only [List.map_map, Function.comp_def, violations, loadFailures, Prod.mk.injEq, true_and]
  simp [List.sum_map_ite, List.filter_map, Function.comp_def]

/-! ## Linting a tree -/

variable (ws : Workspace) (config : Config) (target timestamp : String)

/-- The rejected resources of every discovered file that loads. -/
def rejectedInTree : Nat :=
  ((discover ws config.discovery target).map fun path =>
    rejectedCount config.trust.enabled (loadFile ws path)).sum

theorem runLint_countByKind :
    (runLint ws config target timestamp).countByKind =
      (rejectedInTree ws config target,
        ((runLint ws config target timestamp).files.filter FileResult.parseFailed).length) := by
  refine countByKind_of_tally _ _ _ _ (runLint_files ws config target timestamp) ?_
  intro path _
  rw [lintFile]
  exact lintLoaded_tally path _ _

/-- A tree passes exactly when every discovered file loads and each of its
resources passes. -/
theorem runLint_passed_iff :
    (runLint ws config target timestamp).passed = true ↔
      ∀ path ∈ discover ws config.discovery target, ∃ resources,
        loadFile ws path = .ok resources ∧ ∀ r ∈ resources, lint r config.trust.enabled = .ok () := by
  rw [passed_iff_findings_eq_nil, findings, runLint_files, List.flatMap_eq_nil_iff]
  simp only [List.mem_map, forall_exists_index, and_imp, forall_apply_eq_imp_iff₂]
  refine forall₂_congr fun path _ => ?_
  rw [lintFile, lintLoaded_findings_eq_nil_iff]

/-- The lint errors are at most the resources linted. -/
theorem rejectedInTree_le :
    rejectedInTree ws config target ≤ (runLint ws config target timestamp).resourcesLinted := by
  rw [resourcesLinted_eq_sum, runLint_files, List.map_map, rejectedInTree]
  apply List.sum_le_sum
  intro path _
  simp only [Function.comp_apply, lintFile]
  exact (lintLoaded_tally path _ _).rejected_le

/-- The summary the JSON report gives. -/
theorem summaryJson_summary (r : Report) :
    r.summaryJson.field? "summary" = some (.object
      [("files_scanned", .nat r.filesScanned), ("files_passed", .nat r.filesPassed),
        ("resources_linted", .nat r.resourcesLinted), ("lint_errors", .nat r.countByKind.1),
        ("parse_errors", .nat r.countByKind.2)]) := by
  simp [summaryJson, Json.Value.field?]

/-- Linting a tree lints the discovered files in discovery order, and the
report's counts agree: the verdict, the status word, the absence of findings
and every file passing are one condition; the lint errors are the rejected
resources of the files that load and the parse errors the files that do not,
together one per finding; and the JSON summary gives these numbers. -/
theorem runLint_counts :
    let report := runLint ws config target timestamp
    let lintErrors := rejectedInTree ws config target
    let parseErrors := (report.files.filter FileResult.parseFailed).length
    report.files = (discover ws config.discovery target).map (lintFile ws config.trust.enabled) ∧
      report.filesScanned = report.files.length ∧
      report.resourcesLinted = (report.files.map FileResult.resourcesLinted).sum ∧
      report.findings = report.files.flatMap FileResult.findings ∧
      (report.passed = true ↔ report.status = "passed") ∧
      (report.status = "passed" ↔ report.findings = []) ∧
      (report.findings = [] ↔ report.filesPassed = report.filesScanned) ∧
      report.countByKind = (lintErrors, parseErrors) ∧
      lintErrors + parseErrors = report.findings.length ∧
      lintErrors ≤ report.resourcesLinted ∧
      report.summaryJson.field? "summary" = some (.object
        [("files_scanned", .nat report.files.length), ("files_passed", .nat report.filesPassed),
          ("resources_linted", .nat (report.files.map FileResult.resourcesLinted).sum),
          ("lint_errors", .nat lintErrors), ("parse_errors", .nat parseErrors)]) := by
  intro report lintErrors parseErrors
  have counts : report.countByKind = (lintErrors, parseErrors) :=
    runLint_countByKind ws config target timestamp
  -- the same pair, read off the findings by rule
  have split := (countByKind_eq report).symm.trans counts
  simp only [Prod.mk.injEq] at split
  refine ⟨rfl, rfl, resourcesLinted_eq_sum report, rfl, (status_eq_passed_iff report).symm,
    (status_eq_passed_iff report).trans (passed_iff_findings_eq_nil report),
    (filesPassed_eq_filesScanned_iff report).symm, counts, ?_,
    rejectedInTree_le ws config target timestamp, ?_⟩
  · rw [← split.1, ← split.2, Nat.add_comm]
    exact (List.length_eq_length_filter_add Finding.isLoadFailure).symm
  · rw [summaryJson_summary, counts, ← resourcesLinted_eq_sum]
    rfl

end CiManifest.Report
