import CiManifest.Lint.Violation

/-!
# The rule registry

Every diagnostic the tool can give is a rule with an id, a category, a trust
gate, a message template and a remediation. The registry lists them in a fixed
order: the parse rule, the structural rules, then one rule per privilege.
Reports cite a rule by its position in this list.
-/

namespace CiManifest.Lint

/-- A rule of the registry. -/
structure Rule where
  id : String
  category : String
  trustedOnly : Bool
  message : String
  remediation : String
  deriving Repr, BEq, Inhabited

/-- The rule under which load failures are reported. -/
def parseErrorRuleId : String := "yaml/parse-error"

/-- The remediation offered for a privilege. -/
def Privilege.remediation : Privilege → String
  | .hostVolume =>
      "Replace the `host` volume with a `temp` volume, or mark the repository as trusted."
  | .memoryVolume =>
      "Drop `medium: memory` from the `temp` volume, or mark the repository as trusted."
  | .hostPort =>
      "Remove the `host` key from the port mapping; services are reachable by name from other steps."
  | .devices => "Remove `devices`, or mark the repository as trusted."
  | .privileged => "Remove `privileged: true`, or mark the repository as trusted."
  | .dns => "Remove `dns`, or mark the repository as trusted."
  | .dnsSearch => "Remove `dns_search`, or mark the repository as trusted."
  | .extraHosts => "Remove `extra_hosts`, or mark the repository as trusted."
  | .networkMode => "Remove `network_mode`, or mark the repository as trusted."

/-- The rule that guards a privilege. -/
def Privilege.rule (p : Privilege) : Rule :=
  { id := p.ruleId, category := "trust", trustedOnly := true
    message := "linter: untrusted repositories cannot " ++ p.action
    remediation := p.remediation }

/-- The rules that do not depend on trust. -/
def structuralRules : List Rule :=
  [ { id := parseErrorRuleId, category := "yaml", trustedOnly := false
      message := "yaml: <parser error>"
      remediation := "Fix the YAML syntax and make sure every document declares a known `kind` (pipeline, secret, signature)." },
    { id := "platform/unsupported-os", category := "platform", trustedOnly := false
      message := "linter: unsupported os: <os>"
      remediation := "Set platform.os to `linux` or `windows`, or omit it to use the default." },
    { id := "platform/unsupported-arch", category := "platform", trustedOnly := false
      message := "linter: unsupported architecture: <arch>"
      remediation := "Set platform.arch to `amd64`, `arm` or `arm64`, or omit it to use the default." },
    { id := "build/missing-image", category := "build", trustedOnly := false
      message := "linter: invalid or missing build image"
      remediation := "Give the build section an `image` to tag the built image with." },
    { id := "volume/reserved-name", category := "volume", trustedOnly := false
      message := "linter: invalid volume name: <name>"
      remediation := "Rename the volume; `_workspace` and `_docker_socket` are used by the runtime." },
    { id := "step/duplicate-name", category := "step", trustedOnly := false
      message := "linter: duplicate step names"
      remediation := "Give every step and service a unique name; steps and services share one namespace." },
    { id := "container/missing-name", category := "container", trustedOnly := false
      message := "linter: invalid or missing name"
      remediation := "Add a non-empty `name` to every step and service." },
    { id := "container/missing-image", category := "container", trustedOnly := false
      message := "linter: invalid or missing image"
      remediation := "Add a non-empty `image` to every step and service." } ]

/-- Every rule, in registry order. -/
def Rule.all : List Rule :=
  structuralRules ++ Privilege.all.map Privilege.rule

/-- The rule with this id. -/
def Rule.find? (id : String) : Option Rule :=
  Rule.all.find? (fun r => r.id == id)

/-- The position of the rule with this id in the registry. -/
def Rule.indexOf? (id : String) : Option Nat :=
  Rule.all.findIdx? (fun r => r.id == id)

end CiManifest.Lint
