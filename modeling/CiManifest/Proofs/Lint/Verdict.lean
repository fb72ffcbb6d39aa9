import CiManifest.Proofs.Lint.Faults

/-!
# What the verdict says

Two consequences of reading the verdict off the flat list of faults.

A resource passes exactly when it is a secret, a signature, or a pipeline that
meets every rule at once (`Admissible`); the rules are stated here one by one,
without the order in which the linter looks at them.

Trusting a repository only removes the privilege checks from the list. So a
trusted verdict never names a privilege, and when the untrusted verdict is a
pass or a structural fault, trust leaves it as it is. When the untrusted
verdict names a privilege, the trusted one may still be a later structural
fault.
-/

namespace CiManifest.Lint

/-- A pipeline that meets every rule of the linter; the privilege rules bind
only untrusted repositories. -/
structure Admissible (p : Pipeline) (trusted : Bool) : Prop where
  os_supported : p.platform.os = "" ∨ p.platform.os = "linux" ∨ p.platform.os = "windows"
  arch_supported : p.platform.arch = "" ∨ p.platform.arch = "amd64" ∨
    p.platform.arch = "arm" ∨ p.platform.arch = "arm64"
  build_image : ∀ b, p.build = some b → b.image ≠ ""
  volume_names : ∀ v ∈ p.volumes, v.name ≠ "_workspace" ∧ v.name ≠ "_docker_socket"
  names_distinct : ((p.steps ++ p.services).map (·.name)).Nodup
  containers_named : ∀ c ∈ p.services ++ p.steps, c.name ≠ "" ∧ c.image ≠ ""
  volumes_unprivileged : trusted = false → ∀ v ∈ p.volumes,
    v.host = none ∧ ∀ d, v.temp = some d → d.medium ≠ "memory"
  containers_unprivileged : trusted = false → ∀ c ∈ p.services ++ p.steps,
    (∀ q ∈ c.ports, q.host = none) ∧ c.devices = [] ∧ c.privileged = false ∧ c.dns = [] ∧
      c.dnsSearch = [] ∧ c.extraHosts = [] ∧ c.networkMode = ""

/-! ## Passing -/

theorem platformFaults_eq_nil_iff (p : Pipeline) :
    platformFaults p = [] ↔
      (p.platform.os = "" ∨ p.platform.os = "linux" ∨ p.platform.os = "windows") ∧
        (p.platform.arch = "" ∨ p.platform.arch = "amd64" ∨ p.platform.arch = "arm" ∨
          p.platform.arch = "arm64") := by
  simp [platformFaults, or_iff_not_imp_left]

theorem buildFaults_eq_nil_iff (p : Pipeline) :
    buildFaults p = [] ↔ ∀ b, p.build = some b → b.image ≠ "" := by
  unfold buildFaults
  cases p.build <;> simp

theorem volumeFaults_eq_nil_iff (trusted : Bool) (v : Volume) :
    volumeFaults trusted v = [] ↔
      (v.name ≠ "_workspace" ∧ v.name ≠ "_docker_socket") ∧
        (trusted = false → v.host = none ∧ ∀ d, v.temp = some d → d.medium ≠ "memory") := by
  obtain ⟨name, host, temp⟩ := v
  cases trusted <;> cases temp <;> simp [volumeFaults]

theorem containerFaults_eq_nil_iff (trusted : Bool) (c : Container) :
    containerFaults trusted c = [] ↔
      (c.name ≠ "" ∧ c.image ≠ "") ∧
        (trusted = false → (∀ q ∈ c.ports, q.host = none) ∧ c.devices = [] ∧
          c.privileged = false ∧ c.dns = [] ∧ c.dnsSearch = [] ∧ c.extraHosts = [] ∧
          c.networkMode = "") := by
  cases trusted <;> simp [containerFaults, and_assoc]

/-- The scan for repeated names finds none exactly when the names are distinct
and none of them was seen before. -/
theorem firstRepeated_eq_none_iff (seen names : List String) :
    firstRepeated seen names = none ↔ names.Nodup ∧ ∀ n ∈ names, n ∉ seen := by
  induction names generalizing seen with
  | nil => simp
  | cons n rest ih =>
      by_cases repeated : n ∈ seen
      · simp [firstRepeated_cons, repeated]
      · simp only [firstRepeated_cons, repeated, List.contains_eq_mem, decide_false,
          Bool.false_eq_true, if_false, ih, List.mem_cons, not_or, List.nodup_cons,
          forall_eq_or_imp, not_false_eq_true, true_and]
        constructor
        · rintro ⟨nodup, fresh⟩
          exact ⟨⟨fun later => (fresh n later).1 rfl, nodup⟩, fun m later => (fresh m later).2⟩
        · rintro ⟨⟨notLater, nodup⟩, fresh⟩
          exact ⟨nodup, fun m later => ⟨fun same => notLater (same ▸ later), fresh m later⟩⟩

theorem duplicateFaults_eq_nil_iff (p : Pipeline) :
    duplicateFaults p = [] ↔ ((p.steps ++ p.services).map (·.name)).Nodup := by
  simp [duplicateFaults, ← firstRepeated_nil_eq_firstDuplicate, firstRepeated_eq_none_iff]

/-- A pipeline has no fault exactly when it meets every rule. -/
theorem faults_eq_nil_iff (p : Pipeline) (trusted : Bool) :
    faults p trusted = [] ↔ Admissible p trusted := by
  simp only [faults, List.append_eq_nil_iff, platformFaults_eq_nil_iff, buildFaults_eq_nil_iff,
    List.flatMap_eq_nil_iff, volumeFaults_eq_nil_iff, duplicateFaults_eq_nil_iff,
    containerFaults_eq_nil_iff]
  constructor
  · rintro ⟨⟨⟨⟨⟨os, arch⟩, build⟩, volumes⟩, distinct⟩, containers⟩
    exact
      { os_supported := os
        arch_supported := arch
        build_image := build
        volume_names := fun v mem => (volumes v mem).1
        names_distinct := distinct
        containers_named := fun c mem => (containers c mem).1
        volumes_unprivileged := fun untrusted v mem => (volumes v mem).2 untrusted
        containers_unprivileged := fun untrusted c mem => (containers c mem).2 untrusted }
  · intro admissible
    refine ⟨⟨⟨⟨⟨admissible.os_supported, admissible.arch_supported⟩, admissible.build_image⟩,
      ?_⟩, admissible.names_distinct⟩, ?_⟩
    · intro v mem
      exact ⟨admissible.volume_names v mem,
        fun untrusted => admissible.volumes_unprivileged untrusted v mem⟩
    · intro c mem
      exact ⟨admissible.containers_named c mem,
        fun untrusted => admissible.containers_unprivileged untrusted c mem⟩

/-- A resource passes exactly when it is a secret, a signature, or a pipeline
that meets every rule. -/
theorem lint_eq_ok_iff_admissible (r : Resource) (trusted : Bool) :
    lint r trusted = .ok () ↔
      (∃ s, r = .secret s) ∨ (∃ s, r = .signature s) ∨
        ∃ p, r = .pipeline p ∧ Admissible p trusted := by
  cases r with
  | pipeline p =>
      rw [lint_pipeline, lintPipeline_eq_verdict, verdict_eq_ok_iff, faults_eq_nil_iff]
      simp
  | secret s => simp
  | signature s => simp

/-! ## Trust -/

/-- Dropping the privileges from a single check keeps it exactly when it is
structural. -/
@[simp]
theorem filter_faultIf (broken : Prop) [Decidable broken] (e : Violation) :
    (faultIf broken e).filter (!·.trustGated) = if e.trustGated then [] else faultIf broken e := by
  by_cases h : broken <;> cases gated : e.trustGated <;> simp [faultIf, h, gated]

theorem volumeFaults_trusted (v : Volume) :
    volumeFaults true v = (volumeFaults false v).filter (!·.trustGated) := by
  simp only [volumeFaults, ↓reduceIte, Bool.false_eq_true, List.filter_append, filter_faultIf]
  simp [Violation.trustGated]

theorem containerFaults_trusted (c : Container) :
    containerFaults true c = (containerFaults false c).filter (!·.trustGated) := by
  simp only [containerFaults, ↓reduceIte, Bool.false_eq_true, List.filter_append,
    filter_faultIf]
  simp [Violation.trustGated]

theorem platformFaults_structural (p : Pipeline) :
    (platformFaults p).filter (!·.trustGated) = platformFaults p := by
  simp only [platformFaults, List.filter_append, filter_faultIf]
  simp [Violation.trustGated]

theorem buildFaults_structural (p : Pipeline) :
    (buildFaults p).filter (!·.trustGated) = buildFaults p := by
  unfold buildFaults
  cases p.build with
  | none => rfl
  | some b =>
      simp only [filter_faultIf]
      simp [Violation.trustGated]

theorem duplicateFaults_structural (p : Pipeline) :
    (duplicateFaults p).filter (!·.trustGated) = duplicateFaults p := by
  unfold duplicateFaults
  cases firstDuplicate ((p.steps ++ p.services).map (·.name)) <;> rfl

/-- A trusted repository's faults are its untrusted faults less the privileges,
in the same order. -/
theorem faults_trusted (p : Pipeline) :
    faults p true = (faults p false).filter (!·.trustGated) := by
  have volumes := funext volumeFaults_trusted
  have containers := funext containerFaults_trusted
  simp only [faults, List.filter_append, List.filter_flatMap, platformFaults_structural,
    buildFaults_structural, duplicateFaults_structural, volumes, containers]

theorem verdict_structural_ne_untrusted (faults : List Violation) (q : Privilege) :
    verdict (faults.filter (!·.trustGated)) ≠ .error (.untrusted q) := by
  rw [Ne, verdict_eq_error_iff, List.head?_filter]
  intro found
  simpa [Violation.trustGated] using List.find?_some found

/-- Dropping the privileges keeps a verdict that is a pass or a structural
fault: that fault stays first. -/
theorem verdict_structural_eq {faults : List Violation}
    (structural : verdict faults = .ok () ∨
      ∃ e, verdict faults = .error e ∧ e.trustGated = false) :
    verdict (faults.filter (!·.trustGated)) = verdict faults := by
  cases faults with
  | nil => rfl
  | cons first rest =>
      have firstStructural : first.trustGated = false := by
        simpa using structural
      rw [List.filter_cons_of_pos (by simp [firstStructural])]
      rfl

/-- Trust never yields a privilege fault, and it keeps a verdict that is a
pass or a structural fault. -/
theorem lint_trusted_lifts_only_trust_gated (r : Resource) :
    (∀ q, lint r true ≠ .error (.untrusted q)) ∧
      ((lint r false = .ok () ∨ ∃ e, lint r false = .error e ∧ e.trustGated = false) →
        lint r true = lint r false) := by
  cases r with
  | pipeline p =>
      simp only [lint_pipeline, lintPipeline_eq_verdict, faults_trusted]
      exact ⟨verdict_structural_ne_untrusted _, verdict_structural_eq⟩
  | secret s => simp
  | signature s => simp

end CiManifest.Lint
