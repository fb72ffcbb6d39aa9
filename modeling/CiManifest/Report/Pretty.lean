import CiManifest.Report.Run

/-!
# The report as text

A header with the target, the time and the trust setting; one status line per
file (`PASS`, `FAIL`, or `ERR ` for a file that could not be loaded); every
finding with its rule, message, location and remediation; and a summary line.

With colours on, parts are wrapped in ANSI escapes. Padding to a column width
is applied to the text before it is wrapped, so it sits inside the escape.
-/

namespace CiManifest.Report

/-- Wraps text in an ANSI style when colours are on. -/
def paint (color : Bool) (codes text : String) : String :=
  if color then "\x1b[" ++ codes ++ "m" ++ text ++ "\x1b[0m" else text

/-- Pads text with spaces on the right to at least `width` characters. -/
def padRight (text : String) (width : Nat) : String :=
  text ++ String.ofList (List.replicate (width - text.length) ' ')

/-- Bold white on blue. -/
def headerStyle : String := "1;44;37"

/-- Bold and underlined. -/
def titleStyle : String := "1;4"

/-- Bold red. -/
def failStyle : String := "1;31"

/-- Bold green. -/
def passStyle : String := "1;32"

/-- Faint. -/
def dimStyle : String := "2"

/-- The status line of one file. -/
def fileLine (color : Bool) (r : FileResult) : String :=
  let icon :=
    if r.parseFailed then paint color failStyle "ERR "
    else if r.passed then paint color passStyle "PASS"
    else paint color failStyle "FAIL"
  let detail := toString r.resourcesLinted ++ " resources, " ++ toString r.findings.length ++
    " findings"
  "  [" ++ icon ++ "] " ++ padRight r.file 40 ++ " " ++ paint color dimStyle detail ++ "\n"

/-- The lines of one finding. -/
def findingLines (color : Bool) (f : Finding) : String :=
  let head := "  [" ++ paint color failStyle "ERROR" ++ "] " ++
    paint color dimStyle (padRight f.ruleId 25) ++ " " ++ f.message ++ "\n"
  let location := f.file ++
    (match f.document with
      | some d => " (document " ++ toString (d + 1) ++ ")"
      | none => "") ++
    (match f.resource with
      | some name => " pipeline '" ++ name ++ "'"
      | none => "")
  let locationLine := if location.isEmpty then "" else
    "         " ++ paint color dimStyle location ++ "\n"
  let remediationLine := match f.remediation with
    | some text => "         > " ++ paint color dimStyle text ++ "\n"
    | none => ""
  head ++ locationLine ++ remediationLine

/-- The report as text. -/
def pretty (r : Report) (color : Bool) : String :=
  let header := "\n" ++ paint color headerStyle ("  Pipeline Lint: " ++ r.target ++ "  ") ++ "\n" ++
    "  Timestamp: " ++ r.timestamp ++ "\n  Trusted:   " ++ toString r.trusted ++ "\n\n"
  let files := paint color titleStyle "Files" ++ "\n" ++
    String.join (r.files.map (fileLine color)) ++ "\n"
  let findings :=
    if r.findings.isEmpty then ""
    else paint color titleStyle "Findings" ++ "\n" ++
      String.join (r.findings.map (findingLines color)) ++ "\n"
  let statusWord :=
    if r.passed then paint color passStyle "PASSED" else paint color failStyle "FAILED"
  let (lintErrors, parseErrors) := r.countByKind
  let summary := "Result: " ++ statusWord ++ "  |  " ++ toString r.filesScanned ++ " files, " ++
    toString r.resourcesLinted ++ " resources, " ++ toString lintErrors ++ " lint errors, " ++
    toString parseErrors ++ " parse errors\n"
  header ++ files ++ findings ++ summary

end CiManifest.Report
