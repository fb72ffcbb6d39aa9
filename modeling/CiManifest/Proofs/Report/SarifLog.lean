import CiManifest.Report.Sarif
import CiManifest.Proofs.Report.FileFindings

/-!
# What the SARIF log of a report says

The SARIF log of a report has one run. Its tool describes every rule of the
registry, in registry order, and its results are the report's findings, one
result per finding and in the same order. A result gives the finding's rule id,
message and file (with forward slashes) at level `error`, and points at the
descriptor of its rule by position.

A result has a position for its rule only when the rule is registered; the
findings of every report that linting builds are (`lintLoaded_findings_registered`),
so every result of such a report points at the descriptor that carries its id.
The main result is `runLint_sarifJson`.
-/

namespace CiManifest.Json

/-- The value reached from `v` by following a path of object keys. -/
def Value.atPath? (v : Value) : List String → Option Value
  | [] => some v
  | key :: rest => (v.field? key).bind fun inner => inner.atPath? rest

end CiManifest.Json

namespace CiManifest.Report

open Json Lint

/-- A SARIF rule descriptor that describes `rule`: its id, its message as the
short description, and its remediation as help. -/
structure DescribesRule (rule : Rule) (descriptor : Value) : Prop where
  id : descriptor.atPath? ["id"] = some (.string rule.id)
  shortDescription : descriptor.atPath? ["shortDescription", "text"] = some (.string rule.message)
  help : descriptor.atPath? ["help", "text"] = some (.string rule.remediation)

/-- A SARIF result that reports the finding `f`, with `rules` the rule
descriptors of the run. -/
structure ReportsFinding (rules : List Value) (f : Finding) (result : Value) : Prop where
  ruleId : result.atPath? ["ruleId"] = some (.string f.ruleId)
  message : result.atPath? ["message", "text"] = some (.string f.message)
  level : result.atPath? ["level"] = some (.string "error")
  location : ∃ location, result.atPath? ["locations"] = some (.array [location]) ∧
    location.atPath? ["physicalLocation", "artifactLocation", "uri"] =
      some (.string (f.file.replace "\\" "/"))
  ruleIndex : ∃ i descriptor, result.atPath? ["ruleIndex"] = some (.nat i) ∧
    rules[i]? = some descriptor ∧ descriptor.atPath? ["id"] = some (.string f.ruleId)

theorem ruleDescriptor_describes (rule : Rule) : DescribesRule rule (ruleDescriptor rule) where
  id := by simp [ruleDescriptor, Value.atPath?, Value.field?]
  shortDescription := by simp [ruleDescriptor, textMessage, Value.atPath?, Value.field?]
  help := by simp [ruleDescriptor, textMessage, Value.atPath?, Value.field?]

/-- The result for a finding with a registered rule reports it, pointing at the
descriptor of its rule. -/
theorem findingResult_reports (f : Finding) (registered : Rule.Registered f.ruleId) :
    ReportsFinding (Rule.all.map ruleDescriptor) f (findingResult f) := by
  obtain ⟨i, found, carries⟩ := Rule.indexOf?_of_registered registered
  obtain ⟨rule, atI, sameId⟩ := Option.map_eq_some_iff.mp carries
  refine ⟨?_, ?_, ?_, ?_, ?_⟩
  · simp [findingResult, found, Value.atPath?, Value.field?]
  · simp [findingResult, found, textMessage, Value.atPath?, Value.field?]
  · simp [findingResult, found, Value.atPath?, Value.field?]
  · simp [findingResult, found, Value.atPath?, Value.field?, fileUri]
  · refine ⟨i, ruleDescriptor rule, ?_, by simp [atI], ?_⟩
    · simp [findingResult, found, Value.atPath?, Value.field?]
    · rw [← sameId]
      exact (ruleDescriptor_describes rule).id

/-- The SARIF log of a report whose findings all name registered rules: one
run, whose driver describes the registry's rules in order and whose results
report the findings in order. -/
theorem sarifJson_of_registered (r : Report) (registered : ∀ f ∈ r.findings, Rule.Registered f.ruleId) :
    r.sarifJson.atPath? ["version"] = some (.string "2.1.0") ∧
    ∃ run rules results, r.sarifJson.atPath? ["runs"] = some (.array [run]) ∧
      run.atPath? ["tool", "driver", "rules"] = some (.array rules) ∧
      List.Forall₂ DescribesRule Rule.all rules ∧
      run.atPath? ["results"] = some (.array results) ∧
      List.Forall₂ (ReportsFinding rules) r.findings results := by
  refine ⟨by simp [sarifJson, Value.atPath?, Value.field?], ?_⟩
  -- the run, its descriptors and its results are the ones `sarifJson` builds
  simp [sarifJson, Value.atPath?, Value.field?]
  exact ⟨fun rule _ => ruleDescriptor_describes rule,
    fun f mem => findingResult_reports f (registered f mem)⟩

/-- Every finding of a linted tree names a registered rule. -/
theorem runLint_findings_registered (ws : Workspace) (config : Config) (target timestamp : String) :
    ∀ f ∈ (runLint ws config target timestamp).findings, Rule.Registered f.ruleId := by
  intro f mem
  obtain ⟨result, fromFile, inResult⟩ := List.mem_flatMap.mp mem
  obtain ⟨path, _, rfl⟩ := List.mem_map.mp fromFile
  rw [lintFile] at inResult
  exact lintLoaded_findings_registered _ _ _ f inResult

/-- The SARIF log of a linted tree is a SARIF 2.1.0 log with one run: its
driver describes every rule of the registry, in order, by id, message and
remediation; its results report the findings one for one and in order, each at
level `error` with the finding's rule id, message and file written with forward
slashes, and with the position of the descriptor that carries its rule id. -/
theorem runLint_sarifJson (ws : Workspace) (config : Config) (target timestamp : String) :
    let report := runLint ws config target timestamp
    report.sarifJson.atPath? ["version"] = some (.string "2.1.0") ∧
    ∃ run rules results, report.sarifJson.atPath? ["runs"] = some (.array [run]) ∧
      run.atPath? ["tool", "driver", "rules"] = some (.array rules) ∧
      List.Forall₂ DescribesRule Rule.all rules ∧
      run.atPath? ["results"] = some (.array results) ∧
      List.Forall₂ (ReportsFinding rules) report.findings results :=
  sarifJson_of_registered _ (runLint_findings_registered ws config target timestamp)

end CiManifest.Report
