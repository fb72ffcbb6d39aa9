import CiManifest.Toml.Reader
import CiManifest.Decode.Mismatch
import CiManifest.Text.Lowercase
import CiManifest.Path
import CiManifest.Json.Value

/-!
# Configuration

The configuration says whether the linted repositories are trusted and which
files a directory walk picks up: those whose extension is one of a list, in
directories whose name is not excluded. Every part is optional and has a
default: untrusted, extensions `yml` and `yaml`, and `target`, `node_modules`
and `.git` excluded.

It is read from TOML with two tables, `[trust]` (`enabled`) and `[discovery]`
(`extensions`, `exclude`); other keys are ignored. Extensions are kept without
their leading dots and in lowercase, and a path's extension is lowercased the
same way before it is compared. Directory names are compared exactly.
-/

namespace CiManifest

open Decode

/-- Trust settings. -/
structure TrustConfig where
  enabled : Bool := false
  deriving Repr, Inhabited

/-- Which files a directory walk picks up. -/
structure DiscoveryConfig where
  extensions : List String := ["yml", "yaml"]
  exclude : List String := ["target", "node_modules", ".git"]
  deriving Repr, Inhabited

/-- The configuration. -/
structure Config where
  trust : TrustConfig := {}
  discovery : DiscoveryConfig := {}
  deriving Repr, Inhabited

/-- An extension as configured: without leading dots, in lowercase. -/
def normalizeExtension (ext : String) : String :=
  Text.lowercase (String.ofList (ext.toList.dropWhile (· == '.')))

/-- Normalizes the configured extensions. -/
def DiscoveryConfig.normalize (d : DiscoveryConfig) : DiscoveryConfig :=
  { d with extensions := d.extensions.map normalizeExtension }

/-- Whether a path has one of the configured extensions. -/
def DiscoveryConfig.matches (d : DiscoveryConfig) (path : String) : Bool :=
  match extension? path with
  | some ext => d.extensions.contains (Text.lowercase ext)
  | none => false

/-- Whether a directory with this name is skipped. -/
def DiscoveryConfig.isExcluded (d : DiscoveryConfig) (name : String) : Bool :=
  d.exclude.contains name

/-- The configuration as a JSON object. -/
def Config.toJson (c : Config) : Json.Value :=
  .object
    [ ("trust", .object [("enabled", .bool c.trust.enabled)]),
      ("discovery", .object
        [ ("extensions", .array (c.discovery.extensions.map .string)),
          ("exclude", .array (c.discovery.exclude.map .string)) ]) ]

namespace Toml

/-- What a TOML value looks like to a mismatch. -/
def Value.unexpected : Value → Unexpected
  | .string s _ => .str s
  | .integer i _ => .signed i
  | .float f _ => .float f
  | .boolean b _ => .bool b
  | .datetime _ _ => .map
  | .array _ _ => .seq
  | .table _ _ => .map

/-- A mismatch at a value. -/
def mismatchAt (v : Value) (expected : String) : Error :=
  { message := (Mismatch.invalidType v.unexpected expected).message Wording.mapping
    span := v.span }

/-- Reads a boolean. -/
def Value.toBool : Value → Except Error Bool
  | .boolean b _ => .ok b
  | v => .error (mismatchAt v "a boolean")

/-- Reads a string. -/
def Value.toText : Value → Except Error String
  | .string s _ => .ok s
  | v => .error (mismatchAt v "a string")

/-- Reads a list of strings. -/
def Value.toTexts : Value → Except Error (List String)
  | .array items _ => items.mapM Value.toText
  | v => .error (mismatchAt v "a sequence")

/-- The entries of a table in key order, as a sorted map holds them. -/
def sortedEntries (entries : List (String × Value)) : List (String × Value) :=
  entries.mergeSort fun a b => decide (a.1 ≤ b.1)

/-- Reads a record with defaults: from a table by key (other keys ignored), or
from an array by position (missing positions keep their default). -/
def Value.toRecord {σ : Type} (name : String) (fields : List (String × (Value → σ → Except Error σ)))
    (init : σ) : Value → Except Error σ
  | .table entries _ =>
      (sortedEntries entries).foldlM
        (fun acc entry =>
          match fields.lookup entry.1 with
          | some set => set entry.2 acc
          | none => .ok acc)
        init
  | .array items _ =>
      (items.zip fields).foldlM (fun acc pair => pair.2.2 pair.1 acc) init
  | .datetime _ _ => .ok init
  | v => .error (mismatchAt v ("struct " ++ name))

end Toml

open Toml in
/-- Reads trust settings. -/
def decodeTrust : Toml.Value → Except Toml.Error TrustConfig :=
  Toml.Value.toRecord "TrustConfig"
    [("enabled", fun v c => do pure { c with enabled := ← v.toBool })] {}

open Toml in
/-- Reads discovery settings. -/
def decodeDiscovery : Toml.Value → Except Toml.Error DiscoveryConfig :=
  Toml.Value.toRecord "DiscoveryConfig"
    [ ("extensions", fun v d => do pure { d with extensions := ← v.toTexts }),
      ("exclude", fun v d => do pure { d with exclude := ← v.toTexts }) ] {}

open Toml in
/-- Reads a configuration. -/
def decodeConfig : Toml.Value → Except Toml.Error Config :=
  Toml.Value.toRecord "Config"
    [ ("trust", fun v c => do pure { c with trust := ← decodeTrust v }),
      ("discovery", fun v c => do pure { c with discovery := ← decodeDiscovery v }) ] {}

/-- The configuration a TOML text gives, with its extensions normalized; a
failure is the error's report. -/
def Config.ofToml (text : String) : Except String Config :=
  match Toml.readDocument text >>= decodeConfig with
  | .ok c => .ok { c with discovery := c.discovery.normalize }
  | .error e => .error (e.report text)

end CiManifest
