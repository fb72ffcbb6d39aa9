import CiManifest.Pipeline.Resource
import CiManifest.Yaml.Node.Json

/-!
# Writing resources as JSON

A resource is written as one object: its `kind` first, then every field of its
record under the name manifests use, defaults included. A volume leaves out
`host` and `temp` when it has none; an absent build is `null`. A bare port is a
number and a port mapping an object with `port`, `host` and `protocol`.
Environment values are written as JSON nodes, which fails when a mapping key
cannot be a JSON key.
-/

namespace CiManifest

open CiManifest.Json CiManifest.Yaml

/-- A list of texts. -/
def textsJson (xs : List String) : Value :=
  .array (xs.map .string)

/-- A map of texts. -/
def textMapJson (xs : List (String × String)) : Value :=
  .object (xs.map fun (k, v) => (k, .string v))

/-- A platform. -/
def Platform.toJson (p : Platform) : Value :=
  .object [("os", .string p.os), ("arch", .string p.arch), ("variant", .string p.variant),
    ("version", .string p.version)]

/-- A build section. -/
def Build.toJson (b : Build) : Value :=
  .object [("image", .string b.image), ("context", .string b.context),
    ("dockerfile", .string b.dockerfile), ("args", textMapJson b.args),
    ("labels", textMapJson b.labels), ("cache_from", textsJson b.cacheFrom)]

/-- A volume; absent backings are left out. -/
def Volume.toJson (v : Volume) : Value :=
  let host := match v.host with
    | some h => [("host", Value.object [("path", .string h.path)])]
    | none => []
  let temp := match v.temp with
    | some t =>
        [("temp", Value.object [("medium", .string t.medium),
          ("size_limit", Value.optNat (t.sizeLimit.map UInt64.toNat))])]
    | none => []
  .object ([("name", .string v.name)] ++ host ++ temp)

/-- A port. -/
def Port.toJson : Port → Value
  | .number p => .nat p.toNat
  | .mapping p h proto =>
      .object [("port", .nat p.toNat), ("host", Value.optNat (h.map UInt16.toNat)),
        ("protocol", Value.optString proto)]

/-- A device or a mount: a name and a path. -/
def namedPathJson (name path : String) : Value :=
  .object [("name", .string name), ("path", .string path)]

/-- The environment of a container. -/
def environmentJson : List (String × Node) → Except EncodeError (List (String × Value))
  | [] => .ok []
  | (k, v) :: rest =>
      match v.toJson with
      | .error e => .error e
      | .ok j => (environmentJson rest).map ((k, j) :: ·)

/-- A container. -/
def Container.toJson (c : Container) : Except EncodeError Value :=
  (environmentJson c.environment).map fun env =>
    .object [("name", .string c.name), ("image", .string c.image),
      ("commands", textsJson c.commands), ("environment", .object env),
      ("detach", .bool c.detach), ("privileged", .bool c.privileged),
      ("devices", .array (c.devices.map fun d => namedPathJson d.name d.path)),
      ("ports", .array (c.ports.map Port.toJson)), ("dns", textsJson c.dns),
      ("dns_search", textsJson c.dnsSearch), ("extra_hosts", textsJson c.extraHosts),
      ("network_mode", .string c.networkMode),
      ("volumes", .array (c.volumes.map fun m => namedPathJson m.name m.path)),
      ("depends_on", textsJson c.dependsOn)]

/-- The JSON forms of containers, stopping at the first failure. -/
def containersJson : List Container → Except EncodeError (List Value)
  | [] => .ok []
  | c :: rest =>
      match c.toJson with
      | .error e => .error e
      | .ok j => (containersJson rest).map (j :: ·)

/-- The fields of a pipeline. -/
def Pipeline.fieldsJson (p : Pipeline) : Except EncodeError (List (String × Value)) :=
  match containersJson p.services with
  | .error e => .error e
  | .ok services =>
      match containersJson p.steps with
      | .error e => .error e
      | .ok steps =>
          .ok [("name", .string p.name), ("type", .string p.pipelineType),
            ("platform", p.platform.toJson),
            ("build", match p.build with | some b => b.toJson | none => .null),
            ("volumes", .array (p.volumes.map Volume.toJson)),
            ("services", .array services), ("steps", .array steps),
            ("depends_on", textsJson p.dependsOn)]

/-- A resource, tagged by its kind. -/
def Resource.toJson : Resource → Except EncodeError Value
  | .pipeline p => (p.fieldsJson).map fun fields => .object (("kind", .string "pipeline") :: fields)
  | .secret s =>
      .ok (.object [("kind", .string "secret"), ("name", .string s.name), ("data", .string s.data)])
  | .signature s => .ok (.object [("kind", .string "signature"), ("hmac", .string s.hmac)])

end CiManifest
