import CiManifest.Number

/-!
# YAML nodes

A node is what a YAML document denotes once aliases are expanded: null, a
boolean, a number, a string, a sequence, a mapping with entries in document
order, or a node under a local tag such as `!thing`. Mapping keys are nodes too.

Two keys are the same when they have the same shape and the same parts:
numbers of one class and value (doubles by their bits, all NaNs alike), tags
equal, and mappings with the same entries in any order.
-/

namespace CiManifest.Yaml

/-- A YAML node. A tag is stored without its leading `!`. -/
inductive Node where
  | null
  | bool (value : Bool)
  | number (value : Number)
  | string (value : String)
  | sequence (items : List Node)
  | mapping (entries : List (Node × Node))
  | tagged (tag : String) (value : Node)
  deriving Inhabited

namespace Node

mutual

/-- Whether two nodes are the same mapping key. -/
def sameKey : Node → Node → Bool
  | .null, .null => true
  | .bool a, .bool b => a == b
  | .number a, .number b => a.sameKey b
  | .string a, .string b => a == b
  | .sequence a, .sequence b => sameItems a b
  | .mapping a, .mapping b => a.length == b.length && coveredBy a b
  | .tagged t a, .tagged u b => t == u && sameKey a b
  | _, _ => false

/-- Whether two item lists are pairwise the same. -/
def sameItems : List Node → List Node → Bool
  | [], [] => true
  | a :: as, b :: bs => sameKey a b && sameItems as bs
  | _, _ => false

/-- Whether every entry of the first mapping occurs in the second. -/
def coveredBy : List (Node × Node) → List (Node × Node) → Bool
  | [], _ => true
  | (k, v) :: rest, other => hasEntry k v other && coveredBy rest other

/-- Whether a mapping has an entry with this key and value. -/
def hasEntry (k v : Node) : List (Node × Node) → Bool
  | [] => false
  | (k', v') :: rest => (sameKey k k' && sameKey v v') || hasEntry k v rest

end

/-- The node under any tags. -/
def untag : Node → Node
  | .tagged _ v => untag v
  | v => v

/-- The value of the entry whose key is `key`. -/
def lookup (key : Node) : List (Node × Node) → Option Node
  | [] => none
  | (k, v) :: rest => if sameKey key k then some v else lookup key rest

/-- The value under the string key `key` of a mapping, looking through tags;
`none` for any other node. -/
def get? (v : Node) (key : String) : Option Node :=
  match v.untag with
  | .mapping entries => lookup (.string key) entries
  | _ => none

/-- Whether the node is null, looking through tags. -/
def isNull (v : Node) : Bool :=
  match v.untag with
  | .null => true
  | _ => false

end Node

end CiManifest.Yaml
