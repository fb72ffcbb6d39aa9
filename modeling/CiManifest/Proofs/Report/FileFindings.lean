import CiManifest.Proofs.Report.Counts
import CiManifest.Proofs.Lint.Coverage

/-!
# The findings of one file

Linting a file either reports that the file could not be loaded, with a single
finding under the parse rule, or judges each of its resources on its own and
reports one finding per rejected resource, in order, numbered by the resource's
position in the file. `DescribesLoadFailure` and `DescribesRejection` say what
such a finding holds, field by field.

Every finding carries the remediation of its rule from the registry: the parse
rule and the rule of each violation are registered (`Lint.Coverage`), so the
lookup behind the remediation never comes back empty. The main result is
`lintFile_findings`.
-/

namespace CiManifest

/-- A load failure names a document exactly when a document's shape or its
missing kind stopped loading. -/
theorem LoadFailure.document?_eq_some_iff (e : LoadFailure) (i : Nat) :
    e.document? = some i ↔ (∃ reason, e = .document i reason) ∨ e = .missingKind i := by
  cases e <;> simp [LoadFailure.document?, eq_comm]

end CiManifest

namespace CiManifest.Report

open Lint

/-- What the finding for a file `file` that failed to load with `e` says. -/
structure DescribesLoadFailure (file : String) (e : LoadFailure) (f : Finding) : Prop where
  ruleId : f.ruleId = parseErrorRuleId
  message : f.message = e.message
  file : f.file = file
  resource : f.resource = none
  kind : f.kind = none
  document : ∀ i, f.document = some i ↔ (∃ reason, e = .document i reason) ∨ e = .missingKind i
  remediation : ∃ rule ∈ Rule.all, rule.id = parseErrorRuleId ∧ f.remediation = some rule.remediation

/-- What the finding for the resource `r` at position `k` of `file`, rejected
with `v`, says. -/
structure DescribesRejection (file : String) (k : Nat) (r : Resource) (v : Violation)
    (f : Finding) : Prop where
  ruleId : f.ruleId = v.ruleId
  message : f.message = v.message
  file : f.file = file
  resource : f.resource = if r.name = "" then none else some r.name
  kind : f.kind = some r.kind
  document : f.document = some k
  remediation : ∃ rule ∈ Rule.all, rule.id = v.ruleId ∧ f.remediation = some rule.remediation

theorem remediationOf_of_registered {id : String} (registered : Rule.Registered id) :
    ∃ rule ∈ Rule.all, rule.id = id ∧ remediationOf id = some rule.remediation := by
  obtain ⟨rule, mem, carries, found⟩ := Rule.find?_of_registered registered
  exact ⟨rule, mem, carries, by simp [remediationOf, found]⟩

theorem Finding.ofLoadFailure_describes (e : LoadFailure) (file : String) :
    DescribesLoadFailure file e (Finding.ofLoadFailure e file) where
  ruleId := rfl
  message := rfl
  file := rfl
  resource := rfl
  kind := rfl
  document := e.document?_eq_some_iff
  remediation := remediationOf_of_registered Rule.parseErrorRuleId_registered

theorem Finding.ofViolation_describes (v : Violation) (file : String) (k : Nat) (r : Resource) :
    DescribesRejection file k r v (Finding.ofViolation v file k r) where
  ruleId := rfl
  message := rfl
  file := rfl
  resource := by simp [Finding.ofViolation, String.isEmpty_iff]
  kind := rfl
  document := rfl
  remediation := remediationOf_of_registered v.ruleId_registered

/-- The findings of resources numbered from `index` are, one for one and in
order, the rejected resources with their positions, each finding describing
its resource's first violation. -/
theorem resourceFindings_forall₂ (file : String) (trusted : Bool) (index : Nat)
    (resources : List Resource) :
    List.Forall₂
      (fun f entry => ∃ v, lint entry.1 trusted = .error v ∧
        DescribesRejection file entry.2 entry.1 v f)
      (resourceFindings file trusted index resources)
      ((resources.zipIdx index).filter fun entry => rejects trusted entry.1) := by
  induction resources generalizing index with
  | nil => simp [resourceFindings]
  | cons r rest ih =>
      unfold resourceFindings
      cases verdict : lint r trusted with
      | ok u => simpa [rejects, verdict] using ih (index + 1)
      | error v =>
          simp only [List.zipIdx_cons, List.filter_cons, rejects, verdict, if_true]
          exact .cons ⟨v, verdict, Finding.ofViolation_describes v file index r⟩ (ih (index + 1))

/-- Every finding of a file names a registered rule. -/
theorem lintLoaded_findings_registered (file : String) (trusted : Bool)
    (loaded : Except LoadFailure (List Resource)) :
    ∀ f ∈ (lintLoaded file trusted loaded).findings, Rule.Registered f.ruleId := by
  cases loaded with
  | error e =>
      intro f mem
      rw [lintLoaded, List.mem_singleton] at mem
      subst mem
      exact Rule.parseErrorRuleId_registered
  | ok resources =>
      -- each finding describes the rejection it stands beside, and so names its rule
      have registered : List.Forall₂ (fun f _ => Rule.Registered f.ruleId ∧ True)
          (resourceFindings file trusted 0 resources)
          ((resources.zipIdx 0).filter fun entry => rejects trusted entry.1) := by
        refine (resourceFindings_forall₂ file trusted 0 resources).imp ?_
        intro f entry described
        obtain ⟨v, -, describes⟩ := described
        exact ⟨describes.ruleId ▸ v.ruleId_registered, trivial⟩
      exact ((List.forall₂_and_left _ _).mp registered).1

/-- Linting a file: a file that cannot be read or loaded counts no resource and
gives one finding, which describes the failure under the parse rule; a file
that loads counts its resources and gives, in order, one finding for each
rejected resource, describing its first violation at its position. -/
theorem lintFile_findings (ws : Workspace) (trusted : Bool) (path : String) :
    (∀ e, loadFile ws path = .error e →
      (lintFile ws trusted path).parseFailed = true ∧
        (lintFile ws trusted path).resourcesLinted = 0 ∧
        ∃ f, (lintFile ws trusted path).findings = [f] ∧ DescribesLoadFailure path e f) ∧
    (∀ resources, loadFile ws path = .ok resources →
      (lintFile ws trusted path).parseFailed = false ∧
        (lintFile ws trusted path).resourcesLinted = resources.length ∧
        List.Forall₂
          (fun f entry => ∃ v, lint entry.1 trusted = .error v ∧
            DescribesRejection path entry.2 entry.1 v f)
          (lintFile ws trusted path).findings
          (resources.zipIdx.filter fun entry => rejects trusted entry.1)) := by
  constructor
  · intro e failed
    rw [lintFile, failed]
    exact ⟨rfl, rfl, _, rfl, Finding.ofLoadFailure_describes e path⟩
  · intro resources loaded
    rw [lintFile, loaded]
    exact ⟨rfl, rfl, resourceFindings_forall₂ path trusted 0 resources⟩

end CiManifest.Report
