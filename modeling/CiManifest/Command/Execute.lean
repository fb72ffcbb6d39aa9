import CiManifest.Command.Parse
import CiManifest.Config.Load
import CiManifest.Report.Format

/-!
# Running a command

A command runs against a workspace and ends with an exit status, the text
written to standard output and to standard error, and the workspace with the
files it wrote.

* `lint` loads the configuration, lints what the path names and writes the
  report to standard output or to the `--output` file. It exits with 0 when the
  report passed and 1 when it did not; a missing path, a configuration that
  cannot be loaded, a path with no pipeline file and an output file that cannot
  be written end it with 2.
* `list-rules` lists the rules by category, each with its trust gate.
* `explain` describes one rule, and exits with 2 when there is no such rule.

Log lines go to standard error, as `[LEVEL pipeline_lint::module] message`:
warnings always, `info` from one `-v` and `debug` from two.
-/

namespace CiManifest.Command

open Lint Report

/-- What running a command leaves: its exit status, its two output streams,
the workspace afterwards, and the files it wrote (as workspace names). -/
structure Outcome where
  status : Nat
  stdout : String := ""
  stderr : String := ""
  workspace : Workspace
  written : List (List String) := []
  deriving Inhabited

/-- The severity of a log line. -/
inductive Level where
  | warn
  | info
  | debug
  deriving Repr, BEq, Inhabited

/-- The verbosity from which a level is shown. -/
def Level.rank : Level → Nat
  | .warn => 0
  | .info => 1
  | .debug => 2

/-- A level as log lines show it, padded to five columns. -/
def Level.tag : Level → String
  | .warn => "WARN "
  | .info => "INFO "
  | .debug => "DEBUG"

/-- A log line from a module of the linter, or nothing below its level. -/
def logLine (verbosity : Nat) (level : Level) (module message : String) : String :=
  if level.rank ≤ verbosity then
    "[" ++ level.tag ++ " pipeline_lint::" ++ module ++ "] " ++ message ++ "\n"
  else ""

/-- The rule listing. -/
def ruleListing (color : Bool) : String :=
  let step := fun (acc : String × String) (r : Rule) =>
    let (current, text) := acc
    let heading := if r.category == current then ""
      else (if current.isEmpty then "" else "\n") ++ "  " ++ paint color "1" r.category ++ "\n"
    let gate := if r.trustedOnly then paint color "1;33" "UNTRUSTED"
      else paint color "34" "   ALWAYS"
    (r.category, text ++ heading ++ "    [" ++ gate ++ "] " ++ padRight r.id 28 ++ " " ++
      r.message ++ "\n")
  paint color "1;4" "Rules" ++ "\n\n" ++ (Rule.all.foldl step ("", "")).2 ++
    "\n  Total: " ++ toString Rule.all.length ++ " rules\n"

/-- The description of one rule. -/
def ruleExplanation (color : Bool) (r : Rule) : String :=
  paint color "1" r.id ++ "\n\n" ++
    "  Category:     " ++ r.category ++ "\n" ++
    "  Applies to:   " ++
      (if r.trustedOnly then "untrusted repositories" else "all repositories") ++ "\n" ++
    "  Diagnostic:   " ++ r.message ++ "\n" ++
    "  Remediation:  " ++ r.remediation ++ "\n"

/-- The debug lines of linting the resources of a file. -/
def resourceLog (verbosity : Nat) (trusted : Bool) : Resource → String
  | .pipeline p =>
      logLine verbosity .debug "linter"
          ("linting pipeline '" ++ p.name ++ "' (trusted: " ++ toString trusted ++ ")") ++
        (match lintPipeline p trusted with
          | .error v =>
              logLine verbosity .debug "linter" ("pipeline '" ++ p.name ++ "' rejected: " ++ v.message)
          | .ok () => "")
  | .secret _ | .signature _ => ""

/-- The log lines of linting one file: a warning when it cannot be loaded,
otherwise the debug lines of its resources. -/
def fileLog (verbosity : Nat) (ws : Workspace) (trusted : Bool) (path : String) : String :=
  match loadFile ws path with
  | .error e => logLine verbosity .warn "run" (path ++ ": " ++ e.message)
  | .ok resources => String.join (resources.map (resourceLog verbosity trusted))

/-- The debug line telling where the configuration came from. -/
def configLog (verbosity : Nat) (ws : Workspace) (path : Option String) : String :=
  let source := match path with
    | some p => some p
    | none => if ws.pathExists defaultConfigFile then some defaultConfigFile else none
  logLine verbosity .debug "config"
    (match source with
      | some p => "loaded config from " ++ p
      | none => "no config file found, using defaults")

/-- Runs `lint`. -/
def runLintCommand (verbosity : Nat) (ws : Workspace) (timestamp : String) (color : Bool)
    (path : String) (trusted : Bool) (format : Format) (output config : Option String) :
    Outcome :=
  if !ws.pathExists path then
    { status := 2, stderr := "Error: path does not exist: " ++ path ++ "\n", workspace := ws }
  else
    match loadConfig ws config with
    | .error e => { status := 2, stderr := "Error: " ++ e.message ++ "\n", workspace := ws }
    | .ok loaded =>
        let settings := if trusted then { loaded with trust := { enabled := true } } else loaded
        let report := runLint ws settings path timestamp
        let files := discover ws settings.discovery path
        let log := configLog verbosity ws config ++
          logLine verbosity .info "run"
            ("linting " ++ toString files.length ++ " file(s) under " ++ path ++
              " (trusted: " ++ toString settings.trust.enabled ++ ")") ++
          String.join (files.map (fileLog verbosity ws settings.trust.enabled))
        if report.filesScanned == 0 then
          { status := 2, workspace := ws
            stderr := log ++ "Error: no pipeline files found in '" ++ path ++ "' (extensions: " ++
              ", ".intercalate settings.discovery.extensions ++ ")\n" }
        else
          let text := report.render format color
          let status := if report.passed then 0 else 1
          match output with
          | none => { status, stdout := text, stderr := log, workspace := ws }
          | some target =>
              match ws.writeText target text with
              | .error reason =>
                  { status := 2, stderr := log ++ "Error writing output: " ++ reason ++ "\n"
                    workspace := ws }
              | .ok (written, names) =>
                  { status, stderr := log ++ "Output written to " ++ target ++ "\n"
                    workspace := written, written := [names] }

/-- Runs what an invocation asks for. -/
def execute (inv : Invocation) (ws : Workspace) (timestamp : String) (color : Bool) : Outcome :=
  match inv.request with
  | .lint path trusted format output config =>
      runLintCommand inv.verbosity ws timestamp color path trusted format output config
  | .listRules => { status := 0, stdout := ruleListing color, workspace := ws }
  | .explain ruleId =>
      match Rule.find? ruleId with
      | some r => { status := 0, stdout := ruleExplanation color r, workspace := ws }
      | none =>
          { status := 2, workspace := ws
            stderr := "Unknown rule: " ++ ruleId ++
              "\nUse 'pipeline-lint list-rules' to see all available rules.\n" }

/-- Reads a command line and runs it. -/
def runCommandLine (args : List String) (ws : Workspace) (timestamp : String) (color : Bool) :
    Outcome :=
  match parseArgs args with
  | .error h => { status := h.status, stdout := h.stdout, stderr := h.stderr, workspace := ws }
  | .ok inv => execute inv ws timestamp color

end CiManifest.Command
