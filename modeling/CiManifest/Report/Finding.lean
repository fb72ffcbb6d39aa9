import CiManifest.Manifest
import CiManifest.Lint.Check
import CiManifest.Lint.Registry
import CiManifest.Json.Value

/-!
# Findings

A finding is one rejected resource, or one file that could not be loaded. It
names the rule, gives the diagnostic, and locates the problem: the file, the
resource's name and kind, and its position among the file's resources (for a
load failure, the document at fault when there is one). The remediation comes
from the rule registry.

Linting a file loads it and checks every resource on its own, so a rejected
resource does not hide the next one.
-/

namespace CiManifest.Report

open Lint

/-- One rejected resource or unloadable file. -/
structure Finding where
  ruleId : String
  message : String
  file : String
  resource : Option String
  kind : Option String
  document : Option Nat
  remediation : Option String
  deriving Inhabited

/-- The remediation the registry gives a rule. -/
def remediationOf (id : String) : Option String :=
  (Rule.find? id).map Rule.remediation

/-- The finding for a resource's first violation; `document` is the
resource's position in its file. -/
def Finding.ofViolation (v : Violation) (file : String) (document : Nat) (r : Resource) :
    Finding :=
  { ruleId := v.ruleId
    message := v.message
    file
    resource := if r.name.isEmpty then none else some r.name
    kind := some r.kind
    document := some document
    remediation := remediationOf v.ruleId }

/-- The finding for a file that could not be loaded. -/
def Finding.ofLoadFailure (e : LoadFailure) (file : String) : Finding :=
  { ruleId := parseErrorRuleId
    message := e.message
    file
    resource := none
    kind := none
    document := e.document?
    remediation := remediationOf parseErrorRuleId }

/-- Whether a finding reports a load failure. -/
def Finding.isLoadFailure (f : Finding) : Bool :=
  f.ruleId == parseErrorRuleId

/-- A finding as a JSON object. -/
def Finding.toJson (f : Finding) : Json.Value :=
  .object
    [ ("rule_id", .string f.ruleId),
      ("message", .string f.message),
      ("file", .string f.file),
      ("resource", .optString f.resource),
      ("kind", .optString f.kind),
      ("document", .optNat f.document),
      ("remediation", .optString f.remediation) ]

/-- The outcome of linting one file. -/
structure FileResult where
  file : String
  resourcesLinted : Nat
  findings : List Finding
  parseFailed : Bool
  deriving Inhabited

/-- A file passes when it has no finding. -/
def FileResult.passed (r : FileResult) : Bool :=
  r.findings.isEmpty

/-- The findings of resources numbered from `index`. -/
def resourceFindings (file : String) (trusted : Bool) (index : Nat) :
    List Resource → List Finding
  | [] => []
  | r :: rest =>
      let others := resourceFindings file trusted (index + 1) rest
      match lint r trusted with
      | .ok () => others
      | .error v => Finding.ofViolation v file index r :: others

/-- Lints the outcome of loading a file. -/
def lintLoaded (file : String) (trusted : Bool) : Except LoadFailure (List Resource) → FileResult
  | .error e =>
      { file, resourcesLinted := 0, findings := [Finding.ofLoadFailure e file], parseFailed := true }
  | .ok resources =>
      { file, resourcesLinted := resources.length
        findings := resourceFindings file trusted 0 resources, parseFailed := false }

end CiManifest.Report
