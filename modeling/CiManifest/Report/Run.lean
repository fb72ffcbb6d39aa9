import CiManifest.Report.Finding
import CiManifest.Config
import CiManifest.Workspace

/-!
# Linting a tree

Discovery picks the files to lint: a file named directly is taken whatever its
extension; a directory is walked, skipping directories whose name is excluded
(the starting directory itself is never skipped), keeping files with a
configured extension, and the result is sorted in path order. A path that does
not exist gives nothing.

Every discovered file is linted on its own, and the report gathers the file
results in discovery order with their findings.
-/

namespace CiManifest.Report

/-- What a walk keeps below one child of the directory at `names`, written
`display`: the child when it is a file with a configured extension, and what
`below` keeps inside it when it is a directory whose name is not excluded. -/
def walkChild (ws : Workspace) (d : DiscoveryConfig) (below : String → List String → List String)
    (display : String) (names : List String) (child : String) : List String :=
  let path := joinPath display child
  match ws.entry? (names ++ [child]) with
  | some (.file _) => if d.matches path then [path] else []
  | some .directory => if d.isExcluded child then [] else below path (names ++ [child])
  | none => []

/-- The files below a directory, found by walking at most `fuel` levels:
`display` is how the directory is written and `names` where it is. -/
def walk (ws : Workspace) (d : DiscoveryConfig) : Nat → String → List String → List String
  | 0, _, _ => []
  | fuel + 1, display, names =>
      (ws.childNames names).flatMap (walkChild ws d (walk ws d fuel) display names)

@[simp]
theorem walk_zero (ws : Workspace) (d : DiscoveryConfig) (display : String) (names : List String) :
    walk ws d 0 display names = [] :=
  rfl

theorem walk_succ (ws : Workspace) (d : DiscoveryConfig) (fuel : Nat) (display : String)
    (names : List String) :
    walk ws d (fuel + 1) display names =
      (ws.childNames names).flatMap (walkChild ws d (walk ws d fuel) display names) :=
  rfl

/-- The files to lint under a target, sorted in path order. -/
def discover (ws : Workspace) (d : DiscoveryConfig) (target : String) : List String :=
  if ws.isFile target then [target]
  else
    match ws.resolve target with
    | none => []
    | some names =>
        let found := walk ws d (ws.entries.length + 1) target names
        found.mergeSort fun a b => !pathLt b a

/-- What reading a file of the tree and loading it as a manifest gives. -/
def loadFile (ws : Workspace) (path : String) : Except LoadFailure (List Resource) :=
  match ws.readText path with
  | .error reason => .error (.unreadable path reason)
  | .ok text => loadManifest text

/-- Lints one file of the tree. -/
def lintFile (ws : Workspace) (trusted : Bool) (path : String) : FileResult :=
  lintLoaded path trusted (loadFile ws path)

end CiManifest.Report

namespace CiManifest

/-- A lint report: what was linted, when, under which trust setting, and
the result of every file. -/
structure Report where
  target : String
  timestamp : String
  trusted : Bool
  files : List Report.FileResult
  deriving Inhabited

end CiManifest

namespace CiManifest.Report

/-- Every finding, file by file. -/
def findings (r : Report) : List Finding :=
  r.files.flatMap FileResult.findings

/-- A report passes when it has no finding. -/
def passed (r : Report) : Bool :=
  r.findings.isEmpty

theorem passed_iff_findings_eq_nil (r : Report) : r.passed = true ↔ r.findings = [] := by
  simp [passed]

/-- The report's status word. -/
def status (r : Report) : String :=
  if r.passed then "passed" else "failed"

theorem status_eq_passed_iff (r : Report) : r.status = "passed" ↔ r.passed = true := by
  unfold status
  cases r.passed <;> simp

/-- The number of files linted. -/
def filesScanned (r : Report) : Nat :=
  r.files.length

/-- The number of resources linted. -/
def resourcesLinted (r : Report) : Nat :=
  (r.files.map FileResult.resourcesLinted).foldl (· + ·) 0

/-- The number of files without findings. -/
def filesPassed (r : Report) : Nat :=
  (r.files.filter FileResult.passed).length

/-- The numbers of lint violations and of load failures. -/
def countByKind (r : Report) : Nat × Nat :=
  let loadFailures := (r.findings.filter Finding.isLoadFailure).length
  (r.findings.length - loadFailures, loadFailures)

/-- Lints everything a target names, with a configuration. -/
def runLint (ws : Workspace) (config : Config) (target timestamp : String) : Report :=
  { target, timestamp, trusted := config.trust.enabled
    files := (discover ws config.discovery target).map (lintFile ws config.trust.enabled) }

theorem runLint_files (ws : Workspace) (config : Config) (target timestamp : String) :
    (runLint ws config target timestamp).files =
      (discover ws config.discovery target).map (lintFile ws config.trust.enabled) :=
  rfl

theorem runLint_filesScanned (ws : Workspace) (config : Config) (target timestamp : String) :
    (runLint ws config target timestamp).filesScanned =
      (discover ws config.discovery target).length :=
  List.length_map _

end CiManifest.Report
