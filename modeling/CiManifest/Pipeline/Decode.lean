import CiManifest.Pipeline.Resource
import CiManifest.Decode.Decoder

/-!
# Reading resources from nodes

Each record is read field by field with the decoders of its field types; a
record whose fields all have defaults starts from its default value. Fields are
named as manifests spell them (`type`, `host`, `temp`, `dns_search`, …), and a
device or mount path may also be given as `device_path` or `mount_path`.

A port is a bare 16-bit number, or else a mapping with a required `port`; data
that is neither is refused as a whole. A resource is a mapping tagged by its
`kind` entry.
-/

namespace CiManifest

open CiManifest.Decode CiManifest.Yaml

/-- A platform. -/
def decodePlatform : Decoder Platform :=
  record "Platform"
    [ .of ["os"] string fun v s => { s with os := v },
      .of ["arch"] string fun v s => { s with arch := v },
      .of ["variant"] string fun v s => { s with variant := v },
      .of ["version"] string fun v s => { s with version := v } ]
    {}

/-- A build section. -/
def decodeBuild : Decoder Build :=
  record "Build"
    [ .of ["image"] string fun v s => { s with image := v },
      .of ["context"] string fun v s => { s with context := v },
      .of ["dockerfile"] string fun v s => { s with dockerfile := v },
      .of ["args"] (stringMap string) fun v s => { s with args := v },
      .of ["labels"] (stringMap string) fun v s => { s with labels := v },
      .of ["cache_from"] (list string) fun v s => { s with cacheFrom := v } ]
    {}

/-- A host path. -/
def decodeHostPath : Decoder HostPath :=
  record "VolumeHostPath" [ .of ["path"] string fun v s => { s with path := v } ] {}

/-- A scratch directory. -/
def decodeTempDir : Decoder TempDir :=
  record "VolumeEmptyDir"
    [ .of ["medium"] string fun v s => { s with medium := v },
      .of ["size_limit"] (option u64) fun v s => { s with sizeLimit := v } ]
    {}

/-- A volume. -/
def decodeVolume : Decoder Volume :=
  record "Volume"
    [ .of ["name"] string fun v s => { s with name := v },
      .of ["host"] (option decodeHostPath) fun v s => { s with host := v },
      .of ["temp"] (option decodeTempDir) fun v s => { s with temp := v } ]
    {}

/-- A device. -/
def decodeDevice : Decoder Device :=
  record "VolumeDevice"
    [ .of ["name"] string fun v s => { s with name := v },
      .of ["path", "device_path"] string fun v s => { s with path := v } ]
    {}

/-- A mount. -/
def decodeMount : Decoder Mount :=
  record "VolumeMount"
    [ .of ["name"] string fun v s => { s with name := v },
      .of ["path", "mount_path"] string fun v s => { s with path := v } ]
    {}

/-- The parts of a port mapping as they are read. -/
structure PortParts where
  port : Option UInt16 := none
  host : Option UInt16 := none
  protocol : Option String := none

/-- The fields of a port mapping: `port` is required, `host` and `protocol`
may be absent. -/
def portMappingFields : List (Decode.Field PortParts) :=
  [ { names := ["port"], required := true
      set := fun style v s => (u16 style v).map fun p => { s with port := some p } },
    .of ["host"] (option u16) fun v s => { s with host := v },
    .of ["protocol"] (option string) fun v s => { s with protocol := v } ]

/-- A port mapping: the record of its fields, in which `port` is always given. -/
def decodePortMapping : Decoder Port := fun style n =>
  (record "PortMapping" portMappingFields {} style n).map fun parts =>
    .mapping (parts.port.getD 0) parts.host parts.protocol

theorem decodePortMapping_eq (style : SequenceEnd) (n : Node) :
    decodePortMapping style n =
      (record "PortMapping" portMappingFields {} style n).map fun parts =>
        .mapping (parts.port.getD 0) parts.host parts.protocol :=
  rfl

/-- The mismatch for data that is neither kind of port. -/
def portMismatch : Mismatch :=
  .custom "data did not match any variant of untagged enum Port"

/-- A port: a bare number, else a mapping. -/
def decodePort : Decoder Port := fun style n =>
  match u16 style n with
  | .ok p => .ok (.number p)
  | .error _ =>
      match decodePortMapping style n with
      | .ok p => .ok p
      | .error _ => .error portMismatch

/-- A container. -/
def decodeContainer : Decoder Container :=
  record "Container"
    [ .of ["name"] string fun v s => { s with name := v },
      .of ["image"] string fun v s => { s with image := v },
      .of ["commands"] (list string) fun v s => { s with commands := v },
      .of ["environment"] (stringMap node) fun v s => { s with environment := v },
      .of ["detach"] bool fun v s => { s with detach := v },
      .of ["privileged"] bool fun v s => { s with privileged := v },
      .of ["devices"] (list decodeDevice) fun v s => { s with devices := v },
      .of ["ports"] (list decodePort) fun v s => { s with ports := v },
      .of ["dns"] (list string) fun v s => { s with dns := v },
      .of ["dns_search"] (list string) fun v s => { s with dnsSearch := v },
      .of ["extra_hosts"] (list string) fun v s => { s with extraHosts := v },
      .of ["network_mode"] string fun v s => { s with networkMode := v },
      .of ["volumes"] (list decodeMount) fun v s => { s with volumes := v },
      .of ["depends_on"] (list string) fun v s => { s with dependsOn := v } ]
    {}

/-- A pipeline. -/
def decodePipeline : Decoder Pipeline :=
  record "Pipeline"
    [ .of ["name"] string fun v s => { s with name := v },
      .of ["type"] string fun v s => { s with pipelineType := v },
      .of ["platform"] decodePlatform fun v s => { s with platform := v },
      .of ["build"] (option decodeBuild) fun v s => { s with build := v },
      .of ["volumes"] (list decodeVolume) fun v s => { s with volumes := v },
      .of ["services"] (list decodeContainer) fun v s => { s with services := v },
      .of ["steps"] (list decodeContainer) fun v s => { s with steps := v },
      .of ["depends_on"] (list string) fun v s => { s with dependsOn := v } ]
    {}

/-- A secret. -/
def decodeSecret : Decoder Secret :=
  record "Secret"
    [ .of ["name"] string fun v s => { s with name := v },
      .of ["data"] string fun v s => { s with data := v } ]
    {}

/-- A signature. -/
def decodeSignature : Decoder Signature :=
  record "Signature" [ .of ["hmac"] string fun v s => { s with hmac := v } ] {}

/-- The kinds of resources, as the `kind` entry names them. -/
def resourceKinds : List String := ["pipeline", "secret", "signature"]

/-- A resource: the `kind` entry selects the record read from the other entries. -/
def decodeResource : Decoder Resource := fun style n =>
  match splitTagged "kind" "Resource" resourceKinds n with
  | .error e => .error e
  | .ok (0, rest) => (decodePipeline style rest).map .pipeline
  | .ok (1, rest) => (decodeSecret style rest).map .secret
  | .ok (_, rest) => (decodeSignature style rest).map .signature

end CiManifest
