/-!
# Violations

A violation is the reason a pipeline is refused. Most are structural; the
others name a privilege that only trusted repositories may use. Each violation
belongs to one rule of the registry, and its message is fixed by its kind and
the offending value.
-/

namespace CiManifest.Lint

/-- A feature that only trusted repositories may use. -/
inductive Privilege where
  | hostVolume
  | memoryVolume
  | hostPort
  | devices
  | privileged
  | dns
  | dnsSearch
  | extraHosts
  | networkMode
  deriving Repr, BEq, DecidableEq, Inhabited

namespace Privilege

/-- Every privilege, in registry order. -/
def all : List Privilege :=
  [.hostVolume, .memoryVolume, .hostPort, .devices, .privileged, .dns, .dnsSearch,
    .extraHosts, .networkMode]

/-- The rule that guards the privilege. -/
def ruleId : Privilege → String
  | .hostVolume => "trust/host-volume"
  | .memoryVolume => "trust/memory-volume"
  | .hostPort => "trust/host-port"
  | .devices => "trust/devices"
  | .privileged => "trust/privileged"
  | .dns => "trust/dns"
  | .dnsSearch => "trust/dns-search"
  | .extraHosts => "trust/extra-hosts"
  | .networkMode => "trust/network-mode"

/-- What an untrusted repository may not do. -/
def action : Privilege → String
  | .hostVolume => "mount host volumes"
  | .memoryVolume => "mount in-memory volumes"
  | .hostPort => "map to a host port"
  | .devices => "mount devices"
  | .privileged => "enable privileged mode"
  | .dns => "configure dns"
  | .dnsSearch => "configure dns_search"
  | .extraHosts => "configure extra_hosts"
  | .networkMode => "configure network_mode"

end Privilege

/-- Why a pipeline is refused. -/
inductive Violation where
  | unsupportedOs (os : String)
  | unsupportedArch (arch : String)
  | missingBuildImage
  | reservedVolumeName (name : String)
  | duplicateStepName (name : String)
  | missingName
  | missingImage
  | untrusted (privilege : Privilege)
  deriving Repr, BEq, DecidableEq, Inhabited

namespace Violation

/-- The rule a violation belongs to. -/
def ruleId : Violation → String
  | .unsupportedOs _ => "platform/unsupported-os"
  | .unsupportedArch _ => "platform/unsupported-arch"
  | .missingBuildImage => "build/missing-image"
  | .reservedVolumeName _ => "volume/reserved-name"
  | .duplicateStepName _ => "step/duplicate-name"
  | .missingName => "container/missing-name"
  | .missingImage => "container/missing-image"
  | .untrusted p => p.ruleId

/-- The diagnostic text. -/
def message : Violation → String
  | .unsupportedOs os => "linter: unsupported os: " ++ os
  | .unsupportedArch arch => "linter: unsupported architecture: " ++ arch
  | .missingBuildImage => "linter: invalid or missing build image"
  | .reservedVolumeName name => "linter: invalid volume name: " ++ name
  | .duplicateStepName _ => "linter: duplicate step names"
  | .missingName => "linter: invalid or missing name"
  | .missingImage => "linter: invalid or missing image"
  | .untrusted p => "linter: untrusted repositories cannot " ++ p.action

/-- Whether trusting the repository would lift the violation. -/
def trustGated : Violation → Bool
  | .untrusted _ => true
  | _ => false

end Violation

end CiManifest.Lint
