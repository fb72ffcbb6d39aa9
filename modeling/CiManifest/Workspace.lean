import CiManifest.Path

/-!
# Workspaces

A workspace is a tree of directories and files, files holding bytes. It is
what the linter reads: paths are resolved the way the operating system
resolves them inside one directory, so every component before the last must be
a directory, `..` steps up (never above the workspace), and a trailing `/` or
`.` asks for a directory.

Reading a file as text fails with the system's wording when the path is
missing, is a directory, or holds bytes that are not UTF-8.

A workspace holds no symbolic links, no entries that cannot be read and no
names that are not UTF-8, so what is proved of walking one says nothing of
them. A command copies the part of the real tree it reads into a workspace
first (`Command.copyTree`): the links below the top, which a walk of the real
tree neither follows nor lists, are left out, and so are files it cannot read.
-/

namespace CiManifest

/-- What a path of a workspace holds. -/
inductive Entry where
  | file (bytes : Array UInt8)
  | directory
  deriving Repr, BEq, Inhabited

/-- A tree of files, each path a list of names from the workspace's top. -/
structure Workspace where
  entries : List (List String × Entry) := []
  deriving Inhabited

namespace Workspace

/-- What is at a resolved path; the top is a directory. -/
def entry? (ws : Workspace) (names : List String) : Option Entry :=
  if names.isEmpty then some .directory else ws.entries.lookup names

/-- Whether a resolved path is a directory. -/
def isDirectoryAt (ws : Workspace) (names : List String) : Bool :=
  ws.entry? names == some .directory

/-- Resolves a path to the names of an existing entry, or nothing when the
path does not lead to one. -/
def resolve (ws : Workspace) (path : String) : Option (List String) :=
  if path.isEmpty || path.startsWith "/" then none
  else
    let parts := pathParts path
    let last := parts.getLast?.getD ""
    let wantsDirectory := parts.length > 1 && (last == "" || last == "." || last == "..")
    let step (acc : Option (List String)) (part : String) : Option (List String) :=
      match acc with
      | none => none
      | some names =>
          if part == "" then some names
          else if !ws.isDirectoryAt names then none
          else if part == "." then some names
          else if part == ".." then
            if names.isEmpty then none else some names.dropLast
          else some (names ++ [part])
    match parts.foldl step (some []) with
    | none => none
    | some names =>
        match ws.entry? names with
        | none => none
        | some .directory => some names
        | some (.file _) => if wantsDirectory then none else some names

/-- Whether a path exists. -/
def pathExists (ws : Workspace) (path : String) : Bool :=
  (ws.resolve path).isSome

/-- Whether a path is a file. -/
def isFile (ws : Workspace) (path : String) : Bool :=
  match ws.resolve path with
  | some names => match ws.entry? names with
    | some (.file _) => true
    | _ => false
  | none => false

/-- Whether a path is a directory. -/
def isDirectory (ws : Workspace) (path : String) : Bool :=
  match ws.resolve path with
  | some names => ws.isDirectoryAt names
  | none => false

/-- The system's wording for a missing path. -/
def notFound : String := "No such file or directory (os error 2)"

/-- The system's wording for reading a directory. -/
def isADirectory : String := "Is a directory (os error 21)"

/-- The system's wording for a path through a file. -/
def notADirectory : String := "Not a directory (os error 20)"

/-- The wording for a file that is not text. -/
def notText : String := "stream did not contain valid UTF-8"

/-- Reads a file as text. -/
def readText (ws : Workspace) (path : String) : Except String String :=
  match ws.resolve path with
  | none => .error notFound
  | some names =>
      match ws.entry? names with
      | some (.file bytes) =>
          match String.fromUTF8? (ByteArray.mk bytes) with
          | some text => .ok text
          | none => .error notText
      | _ => .error isADirectory

/-- The names of the entries directly inside a resolved directory. -/
def childNames (ws : Workspace) (names : List String) : List String :=
  ws.entries.filterMap fun entry =>
    if entry.1.dropLast == names && entry.1.length == names.length + 1 then entry.1.getLast?
    else none

/-- Adds a directory and its missing parents. -/
def addDirectory (ws : Workspace) (names : List String) : Workspace :=
  let prefixes := (List.range names.length).map fun n => names.take (n + 1)
  prefixes.foldl
    (fun acc p => if (acc.entries.lookup p).isSome then acc
      else { entries := acc.entries ++ [(p, .directory)] })
    ws

/-- Adds a file, with its missing parent directories, replacing what was
there. -/
def addFile (ws : Workspace) (names : List String) (bytes : Array UInt8) : Workspace :=
  let ws := ws.addDirectory names.dropLast
  { entries := (ws.entries.filter fun e => e.1 != names) ++ [(names, .file bytes)] }

/-- The names of a relative path, dropping empty and `.` parts. -/
def pathNames (path : String) : List String :=
  (path.splitOn "/").filter fun p => p != "" && p != "."

/-- Follows path parts from the top, each step from an existing directory;
the error is the system's wording for the first step that fails. -/
def locate (ws : Workspace) (parts : List String) : Except String (List String) :=
  parts.foldlM
    (fun names part =>
      match ws.entry? names with
      | none => .error notFound
      | some (.file _) => .error notADirectory
      | some .directory =>
          if part == "" || part == "." then .ok names
          else if part == ".." then .ok names.dropLast
          else .ok (names ++ [part]))
    []

/-- Where writing to a path puts the file: its names, or the system's wording
for why nothing can be written there. -/
def writeTarget (ws : Workspace) (path : String) : Except String (List String) := do
  if path.isEmpty then throw notFound
  if path.startsWith "/" then throw notFound
  let parts := path.splitOn "/"
  let last := parts.getLast?.getD ""
  let parent ← ws.locate parts.dropLast
  match ws.entry? parent with
  | none => throw notFound
  | some (.file _) => throw notADirectory
  | some .directory =>
      if last == "" || last == "." || last == ".." then throw isADirectory
      let names := parent ++ [last]
      match ws.entry? names with
      | some .directory => throw isADirectory
      | _ => pure names

/-- Writes text to a file, creating or truncating it. Returns the workspace
and the names of the file written. -/
def writeText (ws : Workspace) (path : String) (text : String) :
    Except String (Workspace × List String) :=
  (ws.writeTarget path).map fun names => (ws.addFile names text.toUTF8.data, names)

/-- Whether a text can be written depends on the path, not on the text. -/
@[simp]
theorem writeText_isOk (ws : Workspace) (path text : String) :
    (ws.writeText path text).isOk = (ws.writeTarget path).isOk := by
  unfold writeText
  cases ws.writeTarget path <;> rfl

end Workspace

end CiManifest
