import CiManifest.Report.Pretty
import CiManifest.Report.Summary
import CiManifest.Report.Sarif

/-!
# Report formats

A report is written as text for people, JSON for scripts, or SARIF for
code-scanning integrations.
-/

namespace CiManifest.Report

/-- A way of writing a report. -/
inductive Format where
  | pretty
  | json
  | sarif
  deriving Repr, BEq, Inhabited

/-- The names of the formats, in order. -/
def Format.names : List String := ["pretty", "json", "sarif"]

/-- The format with a name. -/
def Format.ofName? : String → Option Format
  | "pretty" => some .pretty
  | "json" => some .json
  | "sarif" => some .sarif
  | _ => none

/-- Writes a report in a format; colours apply to text only. -/
def render (r : Report) (format : Format) (color : Bool) : String :=
  match format with
  | .pretty => r.pretty color
  | .json => r.json
  | .sarif => r.sarif

end CiManifest.Report
