import CiManifest.Report.Run
import CiManifest.Json.Printer

/-!
# The report as JSON

The report for scripts: the target, time, trust setting and status, a summary
of counts, one entry per file, and every finding, printed as indented JSON.
-/

namespace CiManifest.Report

open Json

/-- The summary entry of one file. -/
def FileResult.summaryJson (r : FileResult) : Value :=
  .object
    [ ("file", .string r.file),
      ("passed", .bool r.passed),
      ("resources_linted", .nat r.resourcesLinted),
      ("duration_ms", .nat 0) ]

/-- The report as a JSON value. -/
def summaryJson (r : Report) : Value :=
  let (lintErrors, parseErrors) := r.countByKind
  .object
    [ ("target", .string r.target),
      ("lint_timestamp", .string r.timestamp),
      ("trusted", .bool r.trusted),
      ("status", .string r.status),
      ("passed", .bool r.passed),
      ("summary", .object
        [ ("files_scanned", .nat r.filesScanned),
          ("files_passed", .nat r.filesPassed),
          ("resources_linted", .nat r.resourcesLinted),
          ("lint_errors", .nat lintErrors),
          ("parse_errors", .nat parseErrors) ]),
      ("files", .array (r.files.map FileResult.summaryJson)),
      ("findings", .array (r.findings.map Finding.toJson)) ]

/-- The report as indented JSON text. -/
def json (r : Report) : String :=
  r.summaryJson.prettyText

end CiManifest.Report
