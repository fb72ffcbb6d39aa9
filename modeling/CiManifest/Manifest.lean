import CiManifest.Yaml.Compose
import CiManifest.Yaml.Merge
import CiManifest.Pipeline.Decode

/-!
# Manifests

A manifest is a YAML text of one or more documents, each describing one
resource. Loading reads the documents in order: a document whose value is null
is skipped (it still counts in the numbering); any other document must have a
`kind` entry, has its merge keys applied, and is then read as a resource.

The first failure stops loading: a document that is not valid YAML, a document
without `kind`, or a document whose merge keys or shape are wrong. A manifest
file that cannot be read fails before any of this.
-/

namespace CiManifest

open Decode

/-- Why a manifest could not be loaded. -/
inductive LoadFailure where
  /-- The file could not be read. -/
  | unreadable (path : String) (reason : String)
  /-- A document is not valid YAML. -/
  | malformed (error : Yaml.LoadError)
  /-- A document's merge keys or shape are wrong. -/
  | document (index : Nat) (reason : String)
  /-- A document has no `kind` entry. -/
  | missingKind (index : Nat)
  deriving Inhabited

namespace LoadFailure

/-- The message of a load failure. -/
def message : LoadFailure → String
  | .unreadable path reason => "failed to read " ++ path ++ ": " ++ reason
  | .malformed e => "yaml: " ++ e.message
  | .document index reason => "yaml: document " ++ toString index ++ ": " ++ reason
  | .missingKind index => "yaml: document " ++ toString index ++ ": missing kind"

/-- The number of the document at fault, when one is. -/
def document? : LoadFailure → Option Nat
  | .document index _ => some index
  | .missingKind index => some index
  | _ => none

/-- The name of the failure's kind. -/
def kindName : LoadFailure → String
  | .unreadable _ _ => "Io"
  | .malformed _ => "Syntax"
  | .document _ _ => "Document"
  | .missingKind _ => "MissingKind"

end LoadFailure

/-- Reads one document's value into a resource, or nothing for a null value. -/
def loadDocument (index : Nat) (d : Yaml.Document) : Except LoadFailure (Option Resource) := do
  let value ← d.value.mapError .malformed
  if value.isNull then return none
  if (value.get? "kind").isNone then throw (.missingKind index)
  let merged ← value.applyMerge.mapError fun e => .document index e.message
  let resource ← (decodeResource .exact merged).mapError fun e =>
    .document index (e.message Wording.mapping)
  pure (some resource)

/-- Loads documents numbered from `index`, stopping at the first failure. -/
def loadDocuments (index : Nat) : List Yaml.Document → Except LoadFailure (List Resource)
  | [] => .ok []
  | d :: rest => do
      let first ← loadDocument index d
      let others ← loadDocuments (index + 1) rest
      pure (first.toList ++ others)

@[simp]
theorem loadDocuments_nil (index : Nat) : loadDocuments index [] = .ok [] :=
  rfl

theorem loadDocuments_cons (index : Nat) (d : Yaml.Document) (rest : List Yaml.Document) :
    loadDocuments index (d :: rest) =
      (loadDocument index d).bind fun first =>
        (loadDocuments (index + 1) rest).bind fun others => .ok (first.toList ++ others) :=
  rfl

/-- The resources of a manifest text, in document order. -/
def loadManifest (text : String) : Except LoadFailure (List Resource) :=
  loadDocuments 0 (Yaml.documents text)

end CiManifest
