import CiManifest.Report.Run
import CiManifest.Json.Printer

/-!
# The report as SARIF

SARIF 2.1.0 for code-scanning tools: one run whose tool describes every rule of
the registry (so that rule indexes are the same in every report), and one
error result per finding with its rule, its registry index and the file it is
about, written with forward slashes.
-/

namespace CiManifest.Report

open Json Lint

/-- The version the tool reports. -/
def toolVersion : String := "0.4.0"

/-- A SARIF text message. -/
def textMessage (text : String) : Value :=
  .object [("text", .string text)]

/-- The description of a rule. -/
def ruleDescriptor (rule : Rule) : Value :=
  .object
    [ ("help", textMessage rule.remediation),
      ("id", .string rule.id),
      ("shortDescription", textMessage rule.message) ]

/-- A file path as a URI reference. -/
def fileUri (path : String) : String :=
  path.replace "\\" "/"

/-- The result for one finding. -/
def findingResult (f : Finding) : Value :=
  let location := Value.object
    [ ("physicalLocation", .object
        [("artifactLocation", .object [("uri", .string (fileUri f.file))])]) ]
  let index := match Rule.indexOf? f.ruleId with
    | some i => [("ruleIndex", Value.nat i)]
    | none => []
  .object
    ([ ("level", .string "error"),
       ("locations", .array [location]),
       ("message", textMessage f.message),
       ("ruleId", .string f.ruleId) ] ++ index)

/-- The report as a SARIF log. -/
def sarifJson (r : Report) : Value :=
  let driver := Value.object
    [ ("name", .string "pipeline-lint"),
      ("rules", .array (Rule.all.map ruleDescriptor)),
      ("version", .string toolVersion) ]
  let run := Value.object
    [ ("results", .array (r.findings.map findingResult)),
      ("tool", .object [("driver", driver)]) ]
  .object [("runs", .array [run]), ("version", .string "2.1.0")]

/-- The report as indented SARIF text. -/
def sarif (r : Report) : String :=
  r.sarifJson.prettyText

end CiManifest.Report
