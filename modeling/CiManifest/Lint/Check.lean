import CiManifest.Pipeline.Resource
import CiManifest.Lint.Violation

/-!
# Judging a resource

A pipeline is judged by a fixed sequence of checks and the first one that fails
gives the verdict: the platform's OS, then its architecture, the build image,
each volume in order, unique container names, then each container (services
before steps). A volume or a container first passes its structural checks and
then, unless the repository is trusted, its privilege checks in a fixed order.
Secrets and signatures always pass.
-/

namespace CiManifest.Lint


/-- Operating systems a pipeline may ask for. -/
def supportedOs : List String := ["linux", "windows"]

/-- Architectures a pipeline may ask for. -/
def supportedArch : List String := ["amd64", "arm", "arm64"]

/-- Volume names the runner keeps for itself. -/
def reservedVolumeNames : List String := ["_workspace", "_docker_socket"]

/-- The first privilege of the list that `used` reports, unless trusted. -/
def firstPrivilege {α : Type} (used : α → Privilege → Bool) (order : List Privilege)
    (target : α) (trusted : Bool) : Except Violation Unit :=
  if trusted then .ok ()
  else
    match order.find? (used target) with
    | some p => .error (.untrusted p)
    | none => .ok ()

/-- A trusted repository may use every privilege. -/
@[simp]
theorem firstPrivilege_trusted {α : Type} (used : α → Privilege → Bool) (order : List Privilege)
    (target : α) : firstPrivilege used order target true = .ok () :=
  rfl

/-- The privileges a volume uses. -/
def volumeUses (v : Volume) : Privilege → Bool
  | .hostVolume => v.isHostPath
  | .memoryVolume => v.isInMemory
  | _ => false

/-- The privileges a container uses. -/
def containerUses (c : Container) : Privilege → Bool
  | .hostPort => c.ports.any fun p => p.host.isSome
  | .devices => !c.devices.isEmpty
  | .privileged => c.privileged
  | .dns => !c.dns.isEmpty
  | .dnsSearch => !c.dnsSearch.isEmpty
  | .extraHosts => !c.extraHosts.isEmpty
  | .networkMode => !c.networkMode.isEmpty
  | _ => false

/-- The order in which volume privileges are checked. -/
def volumePrivileges : List Privilege := [.hostVolume, .memoryVolume]

/-- The order in which container privileges are checked. -/
def containerPrivileges : List Privilege :=
  [.hostPort, .devices, .privileged, .dns, .dnsSearch, .extraHosts, .networkMode]

/-- The platform must name a supported OS and architecture, or leave them empty. -/
def checkPlatform (p : Pipeline) : Except Violation Unit :=
  if !p.platform.os.isEmpty && !supportedOs.contains p.platform.os then
    .error (.unsupportedOs p.platform.os)
  else if !p.platform.arch.isEmpty && !supportedArch.contains p.platform.arch then
    .error (.unsupportedArch p.platform.arch)
  else .ok ()

/-- A volume must not take a reserved name, and untrusted repositories may not
use host paths or memory. -/
def checkVolume (v : Volume) (trusted : Bool) : Except Violation Unit :=
  if reservedVolumeNames.contains v.name then .error (.reservedVolumeName v.name)
  else firstPrivilege volumeUses volumePrivileges v trusted

/-- A container needs a name and an image, and untrusted repositories may not
use its privileged features. -/
def checkContainer (c : Container) (trusted : Bool) : Except Violation Unit :=
  if c.name.isEmpty then .error .missingName
  else if c.image.isEmpty then .error .missingImage
  else firstPrivilege containerUses containerPrivileges c trusted

/-- The first name of the list that an earlier name equals. -/
def firstRepeated : List String → List String → Option String
  | _, [] => none
  | seen, n :: rest => if seen.contains n then some n else firstRepeated (n :: seen) rest

@[simp]
theorem firstRepeated_nil (seen : List String) : firstRepeated seen [] = none :=
  rfl

theorem firstRepeated_cons (seen : List String) (n : String) (rest : List String) :
    firstRepeated seen (n :: rest) =
      if seen.contains n then some n else firstRepeated (n :: seen) rest :=
  rfl

/-- Steps and services share one namespace; the first repeated name, steps
first, is reported. The empty name counts like any other. -/
def checkUniqueNames (p : Pipeline) : Except Violation Unit :=
  match firstRepeated [] ((p.steps ++ p.services).map Container.name) with
  | some n => .error (.duplicateStepName n)
  | none => .ok ()

/-- Runs a check over every element, stopping at the first failure. -/
def checkEach {α : Type} (check : α → Except Violation Unit) : List α → Except Violation Unit
  | [] => .ok ()
  | x :: rest =>
      match check x with
      | .error e => .error e
      | .ok () => checkEach check rest

@[simp]
theorem checkEach_nil {α : Type} (check : α → Except Violation Unit) : checkEach check [] = .ok () :=
  rfl

theorem checkEach_cons {α : Type} (check : α → Except Violation Unit) (x : α) (rest : List α) :
    checkEach check (x :: rest) = (check x).bind fun _ => checkEach check rest := by
  rw [checkEach]
  cases check x <;> rfl

/-- Everything but the platform: build image, volumes, names, containers. -/
def checkResource (p : Pipeline) (trusted : Bool) : Except Violation Unit :=
  let build : Except Violation Unit :=
    match p.build with
    | some b => if b.image.isEmpty then .error .missingBuildImage else .ok ()
    | none => .ok ()
  match build with
  | .error e => .error e
  | .ok () =>
      match checkEach (fun v => checkVolume v trusted) p.volumes with
      | .error e => .error e
      | .ok () =>
          match checkUniqueNames p with
          | .error e => .error e
          | .ok () => checkEach (fun c => checkContainer c trusted) p.containers

/-- The verdict on a pipeline: the platform, then everything else. -/
def lintPipeline (p : Pipeline) (trusted : Bool) : Except Violation Unit :=
  match checkPlatform p with
  | .error e => .error e
  | .ok () => checkResource p trusted

/-- The verdict on a resource. -/
def lint (r : Resource) (trusted : Bool) : Except Violation Unit :=
  match r with
  | .pipeline p => lintPipeline p trusted
  | .secret _ | .signature _ => .ok ()

@[simp]
theorem lint_pipeline (p : Pipeline) (trusted : Bool) : lint (.pipeline p) trusted = lintPipeline p trusted :=
  rfl

/-- Secrets and signatures always pass. -/
@[simp]
theorem lint_secret (s : Secret) (trusted : Bool) : lint (.secret s) trusted = .ok () :=
  rfl

@[simp]
theorem lint_signature (s : Signature) (trusted : Bool) : lint (.signature s) trusted = .ok () :=
  rfl

end CiManifest.Lint
