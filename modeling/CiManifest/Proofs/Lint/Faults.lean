import Mathlib.Data.List.Find
import CiManifest.Lint.Check

/-!
# The faults of a pipeline

The linter runs its checks as nested loops that stop at the first failure:
volumes one by one, each through a reserved-name test and then a table of
privileges, a scan for repeated names, then containers one by one. This module
lays the same checks out flat. `faults p trusted` lists every check the
pipeline fails, in the order the linter reaches them, and the verdict is the
first entry of that list.

The main result is `lintPipeline_eq_verdict`: the nested loops, their early
exits and the privilege tables decide exactly what the flat list decides.
-/

namespace CiManifest.Lint

/-- The verdict a list of faults gives: the first one, or a pass when there
is none. -/
def verdict : List Violation → Except Violation Unit
  | [] => .ok ()
  | e :: _ => .error e

@[simp]
theorem verdict_nil : verdict [] = .ok () :=
  rfl

@[simp]
theorem verdict_cons (e : Violation) (rest : List Violation) :
    verdict (e :: rest) = .error e :=
  rfl

theorem verdict_eq_head? (faults : List Violation) :
    verdict faults = match faults.head? with
      | some e => .error e
      | none => .ok () := by
  cases faults <;> rfl

theorem verdict_eq_error_iff {faults : List Violation} {e : Violation} :
    verdict faults = .error e ↔ faults.head? = some e := by
  cases faults <;> simp [eq_comm]

theorem verdict_eq_ok_iff {faults : List Violation} :
    verdict faults = .ok () ↔ faults = [] := by
  cases faults <;> simp

/-- A failure in the first checks decides the verdict. -/
theorem verdict_append_of_error {first : List Violation} {e : Violation}
    (fails : verdict first = .error e) (rest : List Violation) :
    verdict (first ++ rest) = .error e := by
  cases first with
  | nil => cases fails
  | cons _ _ => exact fails

/-- When the first checks pass, the rest decide. -/
theorem verdict_append_of_ok {first : List Violation} (passes : verdict first = .ok ())
    (rest : List Violation) : verdict (first ++ rest) = verdict rest := by
  cases first with
  | nil => rfl
  | cons _ _ => cases passes

/-- The fault `v` when `broken` holds, nothing otherwise. -/
def faultIf (broken : Prop) [Decidable broken] (v : Violation) : List Violation :=
  if broken then [v] else []

theorem faultIf_pos {broken : Prop} [Decidable broken] (h : broken) (v : Violation) :
    faultIf broken v = [v] :=
  if_pos h

theorem faultIf_neg {broken : Prop} [Decidable broken] (h : ¬broken) (v : Violation) :
    faultIf broken v = [] :=
  if_neg h

@[simp]
theorem faultIf_eq_nil_iff {broken : Prop} [Decidable broken] {v : Violation} :
    faultIf broken v = [] ↔ ¬broken := by
  by_cases h : broken <;> simp [faultIf, h]

/-- A guard that fails with `e` when `c` holds, and otherwise goes on with
`rest`, reports the fault `e` first and then what `rest` reports. -/
theorem guard_eq_verdict {c : Bool} {broken : Prop} [Decidable broken] (agree : c = true ↔ broken)
    (e : Violation) {rest : Except Violation Unit} {after : List Violation}
    (continued : rest = verdict after) :
    (if c = true then .error e else rest) = verdict (faultIf broken e ++ after) := by
  by_cases h : broken
  · rw [if_pos (agree.mpr h), faultIf_pos h]
    rfl
  · rw [if_neg (mt agree.mp h), faultIf_neg h, List.nil_append, continued]

/-- A last guard, with nothing after it. -/
theorem lastGuard_eq_verdict {c : Bool} {broken : Prop} [Decidable broken]
    (agree : c = true ↔ broken) (e : Violation) :
    (if c = true then .error e else .ok ()) = verdict (faultIf broken e) := by
  rw [← List.append_nil (faultIf broken e)]
  exact guard_eq_verdict agree e rfl

/-- The first name of the list that equals a name before it. -/
def firstDuplicate (names : List String) : Option String :=
  (names.zipIdx.find? fun (n, i) => n ∈ names.take i).map Prod.fst

/-! ## The checks, laid out flat -/

/-- The OS must be empty, `linux` or `windows`; then the same for the
architecture. -/
def platformFaults (p : Pipeline) : List Violation :=
  faultIf (p.platform.os ∉ ["", "linux", "windows"]) (.unsupportedOs p.platform.os) ++
    faultIf (p.platform.arch ∉ ["", "amd64", "arm", "arm64"]) (.unsupportedArch p.platform.arch)

/-- A build section must name an image. -/
def buildFaults (p : Pipeline) : List Violation :=
  match p.build with
  | some b => faultIf (b.image = "") .missingBuildImage
  | none => []

/-- A volume's reserved name, then, unless trusted, its host path and its
in-memory scratch directory. -/
def volumeFaults (trusted : Bool) (v : Volume) : List Violation :=
  faultIf (v.name ∈ ["_workspace", "_docker_socket"]) (.reservedVolumeName v.name) ++
    if trusted then [] else
      faultIf (v.host ≠ none) (.untrusted .hostVolume) ++
        faultIf (v.temp.any fun d => d.medium = "memory") (.untrusted .memoryVolume)

/-- The first repeated name among the steps and then the services. -/
def duplicateFaults (p : Pipeline) : List Violation :=
  (firstDuplicate ((p.steps ++ p.services).map (·.name))).toList.map .duplicateStepName

/-- A container's missing name and image, then, unless trusted, each
privileged feature it uses. -/
def containerFaults (trusted : Bool) (c : Container) : List Violation :=
  faultIf (c.name = "") .missingName ++ faultIf (c.image = "") .missingImage ++
    if trusted then [] else
      faultIf (∃ q ∈ c.ports, q.host ≠ none) (.untrusted .hostPort) ++
        faultIf (c.devices ≠ []) (.untrusted .devices) ++
        faultIf (c.privileged = true) (.untrusted .privileged) ++
        faultIf (c.dns ≠ []) (.untrusted .dns) ++
        faultIf (c.dnsSearch ≠ []) (.untrusted .dnsSearch) ++
        faultIf (c.extraHosts ≠ []) (.untrusted .extraHosts) ++
        faultIf (c.networkMode ≠ "") (.untrusted .networkMode)

/-- Every check a pipeline fails, in the order the linter reaches them:
platform, build, each volume, repeated names, then each service and each
step. -/
def faults (p : Pipeline) (trusted : Bool) : List Violation :=
  platformFaults p ++ buildFaults p ++ p.volumes.flatMap (volumeFaults trusted) ++
    duplicateFaults p ++ (p.services ++ p.steps).flatMap (containerFaults trusted)

/-! ## Each check computes its faults -/

/-- A privilege table reports the first privilege, in table order, that the
target uses. -/
theorem firstPrivilege_eq_verdict {α : Type} (used : α → Privilege → Bool)
    (order : List Privilege) (target : α) (trusted : Bool) :
    firstPrivilege used order target trusted =
      verdict (if trusted then [] else (order.filter (used target)).map .untrusted) := by
  cases trusted with
  | true => rfl
  | false =>
      simp only [firstPrivilege, Bool.false_eq_true, if_false, verdict_eq_head?,
        List.head?_map, List.head?_filter]
      cases order.find? (used target) <;> rfl

/-- A loop that stops at the first failing element reports the first fault of
the elements' faults taken in order. -/
theorem checkEach_eq_verdict {α : Type} {check : α → Except Violation Unit}
    {faultsOf : α → List Violation} (each : ∀ x, check x = verdict (faultsOf x))
    (xs : List α) : checkEach check xs = verdict (xs.flatMap faultsOf) := by
  induction xs with
  | nil => rfl
  | cons x rest ih =>
      rw [checkEach_cons, each x, List.flatMap_cons]
      cases faultsOf x with
      | nil => exact ih
      | cons e _ => rfl

theorem map_filter_cons {α : Type} (keep : α → Bool) (fault : α → Violation) (a : α)
    (rest : List α) :
    ((a :: rest).filter keep).map fault =
      faultIf (keep a = true) (fault a) ++ (rest.filter keep).map fault := by
  cases h : keep a <;> simp [h, faultIf]

theorem volumePrivileges_used (v : Volume) :
    (volumePrivileges.filter (volumeUses v)).map .untrusted =
      faultIf (v.host ≠ none) (.untrusted .hostVolume) ++
        faultIf (v.temp.any fun d => d.medium = "memory") (.untrusted .memoryVolume) := by
  simp only [volumePrivileges, map_filter_cons, List.filter_nil, List.map_nil, List.append_nil]
  have memory : v.isInMemory = v.temp.any fun d => d.medium = "memory" := by
    unfold Volume.isInMemory
    cases v.temp <;> simp [memoryMedium, Bool.beq_eq_decide_eq]
  simp [volumeUses, Volume.isHostPath, memory, Option.isSome_iff_ne_none]

theorem containerPrivileges_used (c : Container) :
    (containerPrivileges.filter (containerUses c)).map .untrusted =
      faultIf (∃ q ∈ c.ports, q.host ≠ none) (.untrusted .hostPort) ++
        faultIf (c.devices ≠ []) (.untrusted .devices) ++
        faultIf (c.privileged = true) (.untrusted .privileged) ++
        faultIf (c.dns ≠ []) (.untrusted .dns) ++
        faultIf (c.dnsSearch ≠ []) (.untrusted .dnsSearch) ++
        faultIf (c.extraHosts ≠ []) (.untrusted .extraHosts) ++
        faultIf (c.networkMode ≠ "") (.untrusted .networkMode) := by
  simp only [containerPrivileges, map_filter_cons, List.filter_nil, List.map_nil, List.append_nil]
  simp [faultIf, containerUses, Option.isSome_iff_ne_none]
  -- the two sides differ only in the `Decidable` instance of `c.privileged = true`
  rfl

theorem checkVolume_eq_verdict (v : Volume) (trusted : Bool) :
    checkVolume v trusted = verdict (volumeFaults trusted v) := by
  rw [checkVolume, volumeFaults]
  exact guard_eq_verdict (by simp [reservedVolumeNames]) _
    (by rw [firstPrivilege_eq_verdict, volumePrivileges_used])

theorem checkContainer_eq_verdict (c : Container) (trusted : Bool) :
    checkContainer c trusted = verdict (containerFaults trusted c) := by
  rw [checkContainer, containerFaults, List.append_assoc]
  exact guard_eq_verdict String.isEmpty_iff _ (guard_eq_verdict String.isEmpty_iff _
    (by rw [firstPrivilege_eq_verdict, containerPrivileges_used]))

theorem unsupported_iff (supported : List String) (value : String) :
    (!value.isEmpty && !supported.contains value) = true ↔ value ∉ "" :: supported := by
  simp

theorem checkPlatform_eq_verdict (p : Pipeline) :
    checkPlatform p = verdict (platformFaults p) := by
  rw [checkPlatform, platformFaults]
  exact guard_eq_verdict (unsupported_iff supportedOs _) _
    (lastGuard_eq_verdict (unsupported_iff supportedArch _) _)

/-- The scan for repeated names, started with the names `seen` already taken,
stops at the first name that was seen or occurs earlier in the list. -/
theorem firstRepeated_eq_find? (seen names : List String) :
    firstRepeated seen names =
      (names.zipIdx.find? fun (n, i) => n ∈ seen ∨ n ∈ names.take i).map Prod.fst := by
  induction names generalizing seen with
  | nil => rfl
  | cons n rest ih =>
      rw [firstRepeated_cons, ih, List.zipIdx_cons, List.find?_cons, List.zipIdx_succ, List.find?_map]
      by_cases repeated : n ∈ seen
      · simp [repeated]
      · simp only [repeated, List.contains_eq_mem, decide_false, Bool.false_eq_true, if_false,
          List.take_zero, List.not_mem_nil, or_false, Option.map_map]
        -- `n` moves from the list into `seen`; the positions of the rest shift by one
        congr 1
        apply List.find?_congr
        rintro ⟨m, i⟩ -
        simp only [Function.comp, List.mem_cons, List.take_succ_cons, decide_eq_decide]
        rw [or_assoc]
        exact or_left_comm

theorem firstRepeated_nil_eq_firstDuplicate (names : List String) :
    firstRepeated [] names = firstDuplicate names := by
  simp [firstRepeated_eq_find?, firstDuplicate]

theorem checkUniqueNames_eq_verdict (p : Pipeline) :
    checkUniqueNames p = verdict (duplicateFaults p) := by
  rw [checkUniqueNames, duplicateFaults, firstRepeated_nil_eq_firstDuplicate]
  cases firstDuplicate ((p.steps ++ p.services).map (·.name)) <;> rfl

theorem buildCheck_eq_verdict (p : Pipeline) :
    (match p.build with
      | some b => if b.image.isEmpty then .error .missingBuildImage else .ok ()
      | none => .ok ()) = verdict (buildFaults p) := by
  unfold buildFaults
  cases p.build with
  | none => rfl
  | some b => exact lastGuard_eq_verdict String.isEmpty_iff _

theorem checkResource_eq_verdict (p : Pipeline) (trusted : Bool) :
    checkResource p trusted = verdict (buildFaults p ++ p.volumes.flatMap (volumeFaults trusted) ++
      duplicateFaults p ++ p.containers.flatMap (containerFaults trusted)) := by
  rw [checkResource, checkEach_eq_verdict (checkVolume_eq_verdict · trusted),
    checkUniqueNames_eq_verdict, checkEach_eq_verdict (checkContainer_eq_verdict · trusted),
    List.append_assoc, List.append_assoc]
  -- one split per early exit: build image, volumes, names
  split
  next e buildFails =>
    rw [verdict_append_of_error ((buildCheck_eq_verdict p).symm.trans buildFails)]
  next buildPasses =>
    rw [verdict_append_of_ok ((buildCheck_eq_verdict p).symm.trans buildPasses)]
    split
    next e volumesFail => rw [verdict_append_of_error volumesFail]
    next volumesPass =>
      rw [verdict_append_of_ok volumesPass]
      split
      next e namesFail => rw [verdict_append_of_error namesFail]
      next namesPass => rw [verdict_append_of_ok namesPass]

/-- The linter's verdict on a pipeline is the first of its faults. -/
theorem lintPipeline_eq_verdict (p : Pipeline) (trusted : Bool) :
    lintPipeline p trusted = verdict (faults p trusted) := by
  rw [lintPipeline, checkPlatform_eq_verdict, checkResource_eq_verdict, faults]
  simp only [Pipeline.containers, List.append_assoc]
  split
  next e platformFails => rw [verdict_append_of_error platformFails]
  next platformPasses => rw [verdict_append_of_ok platformPasses]

/-- A pipeline is refused with `e` exactly when `e` is the first check it
fails: platform, build image, each volume, repeated names (steps before
services), then each service and each step. -/
theorem lintPipeline_eq_error_iff_first_fault (p : Pipeline) (trusted : Bool) (e : Violation) :
    lintPipeline p trusted = .error e ↔ (faults p trusted).head? = some e := by
  rw [lintPipeline_eq_verdict, verdict_eq_error_iff]

/-- Two unnamed steps repeat the empty name before either is found unnamed. -/
example : lintPipeline { steps := [{ image := "alpine" }, { image := "alpine" }] } false =
    .error (.duplicateStepName "") := by
  rfl

end CiManifest.Lint
