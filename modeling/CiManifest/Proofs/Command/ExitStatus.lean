import CiManifest.Command.Execute
import CiManifest.Proofs.Report.Counts

/-!
# The exit status of `lint`

`lint` stops with status 2 before it judges anything when the path does not
exist, the configuration cannot be loaded, no pipeline file is found, or the
report cannot be written where `--output` says. Otherwise it exits with 0 when
every discovered file loads and every resource in it passes, trusted when
`--trusted` is given or the configuration trusts the repository, and with 1
when not.

The report's format changes the text written, never the status: whether a file
can be written depends on where it goes, not on what it holds
(`Workspace.writeText_isOk`).
-/

namespace CiManifest

namespace Command

open Report Lint

/-- What makes `lint` stop with status 2: a missing path, a configuration that
cannot be loaded, no pipeline file, or an output file that cannot be written,
whatever the text. -/
def LintHalts (ws : Workspace) (path : String) (output config : Option String) : Prop :=
  ws.pathExists path = false ∨ (∃ e, loadConfig ws config = .error e) ∨
    (∃ c, loadConfig ws config = .ok c ∧ discover ws c.discovery path = []) ∨
    ∃ target, output = some target ∧ ∀ text, (ws.writeText target text).isOk = false

/-- What makes a lint run pass: with the loaded configuration, every discovered
file loads and each of its resources passes, trusted when `--trusted` is given
or the configuration trusts the repository. -/
def LintPasses (ws : Workspace) (path : String) (trusted : Bool) (config : Option String) :
    Prop :=
  ∀ c, loadConfig ws config = .ok c → ∀ file ∈ discover ws c.discovery path, ∃ resources,
    loadFile ws file = .ok resources ∧ ∀ r ∈ resources, lint r (trusted || c.trust.enabled) = .ok ()

/-- The three ways `lint` ends: halted with 2, passed with 0, or failed with 1. -/
def StatusCases (halts passes : Prop) (status : Nat) : Prop :=
  (halts ∧ status = 2) ∨ (¬halts ∧ passes ∧ status = 0) ∨ (¬halts ∧ ¬passes ∧ status = 1)

theorem StatusCases.status_iff {halts passes : Prop} {status : Nat}
    (ends : StatusCases halts passes status) :
    (status = 2 ↔ halts) ∧ (status = 0 ↔ ¬halts ∧ passes) ∧ (status = 1 ↔ ¬halts ∧ ¬passes) := by
  rcases ends with ⟨halted, rfl⟩ | ⟨running, passed, rfl⟩ | ⟨running, failed, rfl⟩ <;> simp_all

/-- The conditions decide the status. -/
theorem StatusCases.unique {halts passes : Prop} {status other : Nat}
    (ends : StatusCases halts passes status) (otherEnds : StatusCases halts passes other) :
    other = status := by
  rcases ends with ⟨halted, rfl⟩ | ⟨running, passed, rfl⟩ | ⟨running, failed, rfl⟩ <;>
    rcases otherEnds with ⟨_, rfl⟩ | ⟨_, _, rfl⟩ | ⟨_, _, rfl⟩ <;> simp_all

/-- The configuration a run uses: the loaded one, trusted when `--trusted` is
given. -/
theorem settings_trust (c : Config) (trusted : Bool) :
    (if trusted then { c with trust := { enabled := true } } else c).trust.enabled =
      (trusted || c.trust.enabled) := by
  cases trusted <;> rfl

theorem settings_discovery (c : Config) (trusted : Bool) :
    (if trusted then { c with trust := { enabled := true } } else c).discovery = c.discovery := by
  cases trusted <;> rfl

variable {ws : Workspace} {path : String} {trusted : Bool} {output config : Option String}

theorem lintHalts_of_loaded {c : Config} (loaded : loadConfig ws config = .ok c) :
    LintHalts ws path output config ↔
      ws.pathExists path = false ∨ discover ws c.discovery path = [] ∨
        ∃ target, output = some target ∧ (ws.writeTarget target).isOk = false := by
  simp [LintHalts, loaded, Workspace.writeText_isOk]

theorem lintPasses_of_loaded {c : Config} (loaded : loadConfig ws config = .ok c)
    (timestamp : String) :
    LintPasses ws path trusted config ↔
      (runLint ws (if trusted then { c with trust := { enabled := true } } else c) path
        timestamp).passed = true := by
  rw [runLint_passed_iff, settings_trust, settings_discovery]
  simp [LintPasses, loaded]

/-- The status of `lint`: 2 when it halts, else 0 when the run passes and 1
when it does not. -/
theorem runLintCommand_status_cases (verbosity : Nat) (timestamp : String) (color : Bool)
    (format : Format) :
    StatusCases (LintHalts ws path output config) (LintPasses ws path trusted config)
      (runLintCommand verbosity ws timestamp color path trusted format output config).status := by
  generalize statusDef :
    (runLintCommand verbosity ws timestamp color path trusted format output config).status = status
  unfold StatusCases
  by_cases present : ws.pathExists path
  · cases loaded : loadConfig ws config with
    | error e =>
        left
        exact ⟨Or.inr (Or.inl ⟨e, loaded⟩), by simp [← statusDef, runLintCommand, present, loaded]⟩
    | ok c =>
        have passes : LintPasses ws path trusted config ↔ _ := lintPasses_of_loaded loaded timestamp
        by_cases empty : discover ws c.discovery path = []
        · left
          refine ⟨(lintHalts_of_loaded loaded).mpr (Or.inr (Or.inl empty)), ?_⟩
          simp [← statusDef, runLintCommand, present, loaded, runLint_filesScanned, settings_discovery,
            empty]
        -- past the halts, the status is the report's verdict
        have verdict (running : ¬LintHalts ws path output config)
            (reported : status = if (runLint ws (if trusted then { c with trust := { enabled := true } }
              else c) path timestamp).passed then 0 else 1) :
            (¬LintHalts ws path output config ∧ LintPasses ws path trusted config ∧ status = 0) ∨
              (¬LintHalts ws path output config ∧ ¬LintPasses ws path trusted config ∧
                status = 1) := by
          rw [passes]
          cases result : (runLint ws (if trusted then { c with trust := { enabled := true } } else c)
              path timestamp).passed
          · exact Or.inr ⟨running, by simp, by rw [reported, result]; rfl⟩
          · exact Or.inl ⟨running, rfl, by rw [reported, result]; rfl⟩
        cases output with
        | none =>
            right
            apply verdict
            · rw [lintHalts_of_loaded loaded]
              simp [present, empty]
            · simp [← statusDef, runLintCommand, present, loaded, runLint_filesScanned,
                settings_discovery, empty]
        | some target =>
            cases write : ws.writeTarget target with
            | error reason =>
                left
                have unwritable : (ws.writeTarget target).isOk = false := by
                  simp [write, Except.isOk, Except.toBool]
                refine ⟨(lintHalts_of_loaded loaded).mpr (Or.inr (Or.inr ⟨target, rfl, unwritable⟩)), ?_⟩
                simp [← statusDef, runLintCommand, present, loaded, runLint_filesScanned,
                  settings_discovery, empty, Workspace.writeText, write, Except.map]
            | ok names =>
                right
                apply verdict
                · rw [lintHalts_of_loaded loaded]
                  simp [present, empty, write, Except.isOk, Except.toBool]
                · simp [← statusDef, runLintCommand, present, loaded, runLint_filesScanned,
                    settings_discovery, empty, Workspace.writeText, write, Except.map]
  · left
    exact ⟨Or.inl (by simpa using present), by simp [← statusDef, runLintCommand, present]⟩

/-- The exit status of a `lint` invocation: 2 exactly when it halts (missing
path, configuration error, no pipeline file, output not writable); otherwise 0
when the run passes and 1 when it does not; and the same for every format. -/
theorem lint_exitStatus (verbosity : Nat) (path : String) (trusted : Bool) (format : Format)
    (output config : Option String) (ws : Workspace) (timestamp : String) (color : Bool) :
    let status := fun format : Format =>
      (execute ⟨verbosity, .lint path trusted format output config⟩ ws timestamp color).status
    (status format = 2 ↔ LintHalts ws path output config) ∧
      (status format = 0 ↔ ¬LintHalts ws path output config ∧ LintPasses ws path trusted config) ∧
      (status format = 1 ↔ ¬LintHalts ws path output config ∧ ¬LintPasses ws path trusted config) ∧
      ∀ other, status other = status format := by
  intro status
  -- `execute` hands a `lint` request to `runLintCommand`
  have ends (format : Format) :
      StatusCases (LintHalts ws path output config) (LintPasses ws path trusted config)
        (status format) :=
    runLintCommand_status_cases verbosity timestamp color format
  obtain ⟨two, zero, one⟩ := (ends format).status_iff
  exact ⟨two, zero, one, fun other => (ends format).unique (ends other)⟩

end Command

end CiManifest
