import CiManifest.Yaml.Node

/-!
# Resources of a manifest

A manifest holds resources of three kinds. A pipeline runs containers (steps,
and services beside them) on a platform, may build an image first, and may
declare volumes; a secret and a signature carry data only.

Every field has a default (empty text, empty list, no build), so a resource
read from a sparse document is complete. String maps keep one entry per key in
increasing key order.
-/

namespace CiManifest

/-- Where a pipeline runs. Empty fields mean the runner's default. -/
structure Platform where
  os : String := ""
  arch : String := ""
  variant : String := ""
  version : String := ""
  deriving Inhabited, BEq, Repr

/-- An image built before the steps run. -/
structure Build where
  image : String := ""
  context : String := ""
  dockerfile : String := ""
  args : List (String × String) := []
  labels : List (String × String) := []
  cacheFrom : List String := []
  deriving Inhabited, BEq, Repr

/-- A directory of the host machine. -/
structure HostPath where
  path : String := ""
  deriving Inhabited, BEq, Repr

/-- A scratch directory; the medium `memory` keeps it in RAM. -/
structure TempDir where
  medium : String := ""
  sizeLimit : Option UInt64 := none
  deriving Inhabited, BEq, Repr

/-- A named volume, backed by a host path, a scratch directory, or neither. -/
structure Volume where
  name : String := ""
  host : Option HostPath := none
  temp : Option TempDir := none
  deriving Inhabited, BEq, Repr

/-- The medium that keeps a scratch directory in memory. -/
def memoryMedium : String := "memory"

/-- A volume is a host path when it names one. -/
def Volume.isHostPath (v : Volume) : Bool :=
  v.host.isSome

/-- A volume is in memory when its scratch directory uses the medium `memory`. -/
def Volume.isInMemory (v : Volume) : Bool :=
  match v.temp with
  | some dir => dir.medium == memoryMedium
  | none => false

/-- A host device passed into a container. -/
structure Device where
  name : String := ""
  path : String := ""
  deriving Inhabited, BEq, Repr

/-- A volume mounted into a container. -/
structure Mount where
  name : String := ""
  path : String := ""
  deriving Inhabited, BEq, Repr

/-- A port a container exposes: a bare number, or a mapping that may also bind
a host port and name a protocol. -/
inductive Port where
  | number (port : UInt16)
  | mapping (port : UInt16) (host : Option UInt16) (protocol : Option String)
  deriving Inhabited, BEq, Repr

/-- The container port. -/
def Port.port : Port → UInt16
  | .number p => p
  | .mapping p _ _ => p

/-- The host port bound, if any. -/
def Port.host : Port → Option UInt16
  | .number _ => none
  | .mapping _ h _ => h

/-- A step or a service. -/
structure Container where
  name : String := ""
  image : String := ""
  commands : List String := []
  environment : List (String × Yaml.Node) := []
  detach : Bool := false
  privileged : Bool := false
  devices : List Device := []
  ports : List Port := []
  dns : List String := []
  dnsSearch : List String := []
  extraHosts : List String := []
  networkMode : String := ""
  volumes : List Mount := []
  dependsOn : List String := []
  deriving Inhabited

/-- A pipeline. -/
structure Pipeline where
  name : String := ""
  pipelineType : String := ""
  platform : Platform := {}
  build : Option Build := none
  volumes : List Volume := []
  services : List Container := []
  steps : List Container := []
  dependsOn : List String := []
  deriving Inhabited

/-- Services first, then steps: the order in which containers are judged. -/
def Pipeline.containers (p : Pipeline) : List Container :=
  p.services ++ p.steps

/-- A named secret. -/
structure Secret where
  name : String := ""
  data : String := ""
  deriving Inhabited, BEq, Repr

/-- A signature of the manifest. -/
structure Signature where
  hmac : String := ""
  deriving Inhabited, BEq, Repr

/-- A resource of a manifest. -/
inductive Resource where
  | pipeline (p : Pipeline)
  | secret (s : Secret)
  | signature (s : Signature)
  deriving Inhabited

/-- The kind of a resource as manifests spell it. -/
def Resource.kind : Resource → String
  | .pipeline _ => "pipeline"
  | .secret _ => "secret"
  | .signature _ => "signature"

/-- The name of a resource; a signature has none. -/
def Resource.name : Resource → String
  | .pipeline p => p.name
  | .secret s => s.name
  | .signature _ => ""

/-- A string map with `value` at `key`, replacing an earlier value, in
increasing key order. -/
def insertSorted {α : Type} (key : String) (value : α) : List (String × α) → List (String × α)
  | [] => [(key, value)]
  | (k, v) :: rest =>
      if key == k then (key, value) :: rest
      else if key < k then (key, value) :: (k, v) :: rest
      else (k, v) :: insertSorted key value rest

end CiManifest
