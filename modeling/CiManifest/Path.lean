/-!
# Paths

Paths are `/`-separated texts. Their components are read the usual Unix way:
a leading `/` is the root, empty parts and `.` parts are dropped, except a
leading `.` of a relative path, and `..` stays as a step up.

A path's file name is its last component when that is a plain name. Its
extension is what follows the file name's last dot, unless that dot is the
name's first character (`.yml` has none) or the name is `..`; `a.` has the
empty extension.

Paths are ordered component by component: the root before `.` before `..`
before names, and names by their bytes.
-/

namespace CiManifest

/-- A component of a path. -/
inductive Component where
  | root
  | current
  | parent
  | name (text : String)
  deriving Repr, BEq, Inhabited

/-- The rank of a component's kind in the path order. -/
def Component.rank : Component → Nat
  | .root => 0
  | .current => 1
  | .parent => 2
  | .name _ => 3

/-- Whether one component comes before another. -/
def Component.lt (a b : Component) : Bool :=
  match a, b with
  | .name x, .name y => decide (x < y)
  | _, _ => a.rank < b.rank

/-- The parts of a path between its `/` separators. -/
def pathParts (path : String) : List String :=
  (path.toList.splitOn '/').map String.ofList

/-- The components of a path. -/
def components (path : String) : List Component :=
  let absolute := path.startsWith "/"
  let parts := pathParts path
  let leadingCurrent := !absolute && parts.head? == some "."
  let named := (parts.filter fun p => p != "" && p != ".").map fun p =>
    if p == ".." then Component.parent else Component.name p
  (if absolute then [Component.root] else []) ++
    (if leadingCurrent then [Component.current] else []) ++ named

/-- The file name of a path: its last component, when that is a name. -/
def fileName? (path : String) : Option String :=
  match (components path).getLast? with
  | some (.name n) => some n
  | _ => none

/-- The extension of a file name. -/
def nameExtension? (name : String) : Option String :=
  if name == ".." then none
  else
    let cs := name.toList
    match (cs.reverse.findIdx? (· == '.')) with
    | none => none
    | some fromEnd =>
        let dot := cs.length - 1 - fromEnd
        if dot == 0 then none else some (String.ofList (cs.drop (dot + 1)))

/-- The extension of a path. -/
def extension? (path : String) : Option String :=
  (fileName? path).bind nameExtension?

/-- Whether one list of components comes before another. -/
def componentsLt : List Component → List Component → Bool
  | [], [] => false
  | [], _ :: _ => true
  | _ :: _, [] => false
  | a :: as, b :: bs => if a == b then componentsLt as bs else a.lt b

/-- Whether one path comes before another in path order. -/
def pathLt (a b : String) : Bool :=
  componentsLt (components a) (components b)

/-- Appends a name to a path, with a separator unless the path ends in one. -/
def joinPath (base name : String) : String :=
  if base.isEmpty || base.endsWith "/" then base ++ name else base ++ "/" ++ name

end CiManifest
