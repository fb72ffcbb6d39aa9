import CiManifest.Command.Execute
import CiManifest.Report.Timestamp
import Std.Time.DateTime.Timestamp

/-!
# The program

Reads the command line, copies the part of the file system that the command
looks at into a workspace (the path to lint with everything below it, the
configuration files, and the directories on the way to the output file), runs
the command on it, writes the files the command wrote, prints its two streams
and exits with its status.

Paths are taken relative to the working directory; a path that leaves it is
not copied, and reads as missing. Colours are used when standard output is a
terminal, unless `NO_COLOR` is set or `CLICOLOR` is `0`; `CLICOLOR_FORCE`
(other than `0`) turns them on regardless.
-/

namespace CiManifest.Command

/-- The workspace names of a relative path, resolving `.` and `..`, or
nothing when the path is absolute or leaves the working directory. -/
def lexicalNames (path : String) : Option (List String) :=
  if path.startsWith "/" then none
  else
    (path.splitOn "/").foldlM
      (fun names part =>
        if part == "" || part == "." then some names
        else if part == ".." then (if names.isEmpty then none else some names.dropLast)
        else some (names ++ [part]))
      []

/-- The location of workspace names on the real file system. -/
def realLocation (names : List String) :=
  IO.currentDir >>= fun root => pure (names.foldl (· / ·) root)

/-- How many levels below the working directory a copy goes. A directory
further down has a path longer than the 4096 bytes the system opens (each
level adds a name and a `/`), so no walk of the real tree can list it either. -/
def openableDepth : Nat := 2048

/-- Copies what is at `names` into a workspace: a file with its bytes, or a
directory with what is in it, at most `depth` levels down. Below the top,
symbolic links are neither followed nor copied, as a walk of the real tree
does not follow them; a directory that cannot be listed is copied empty, and a
file that cannot be read is left out. -/
def copyTree (names : List String) : Nat → Workspace → IO Workspace
  | 0, ws => pure ws
  | depth + 1, ws => do
      let location ← realLocation names
      if ← location.isDir then
        match ← location.readDir.toBaseIO with
        | .ok entries =>
            entries.foldlM
              (fun ws entry => do
                match ← entry.path.symlinkMetadata.toBaseIO with
                | .ok info =>
                    if info.type == .symlink then pure ws
                    else copyTree (names ++ [entry.fileName]) depth ws
                | .error _ => pure ws)
              (ws.addDirectory names)
        | .error _ => pure (ws.addDirectory names)
      else if ← location.pathExists then
        match ← (IO.FS.readBinFile location).toBaseIO with
        | .ok bytes => pure (ws.addFile names bytes.data)
        | .error _ => pure ws
      else pure ws

/-- Copies the directories on the way to `names`, and what is at its end when
it is not a directory, so that writing there meets what the system would. -/
def copyWay (names : List String) (ws : Workspace) : IO Workspace :=
  (List.range names.length).foldlM
    (fun ws n => do
      let prefixNames := names.take (n + 1)
      let location ← realLocation prefixNames
      if ← location.isDir then pure (ws.addDirectory prefixNames)
      else if ← location.pathExists then pure (ws.addFile prefixNames #[])
      else pure ws)
    ws

/-- Copies what a path names, when it stays inside the working directory. -/
def copyPath (path : String) (ws : Workspace) : IO Workspace :=
  match lexicalNames path with
  | some names => copyTree names openableDepth ws
  | none => pure ws

/-- The workspace a request looks at. -/
def gatherWorkspace : Request → IO Workspace
  | .lint path _ _ output config => do
      let ws ← match output.bind lexicalNames with
        | some names => copyWay names {}
        | none => pure {}
      let ws ← copyPath defaultConfigFile ws
      let ws ← match config with
        | some c => copyPath c ws
        | none => pure ws
      copyPath path ws
  | .listRules | .explain _ => pure {}

/-- Whether to colour the output, from `CLICOLOR_FORCE`, `NO_COLOR` and
`CLICOLOR` (each when set) and whether standard output is a terminal. -/
def colorWanted (force noColor clicolor : Option String) (terminal : Bool) : Bool :=
  if force.any (· != "0") then true
  else if noColor.isSome then false
  else clicolor.all (· != "0") && terminal

/-- Whether to colour the output here. -/
def useColor : IO Bool := do
  pure (colorWanted (← IO.getEnv "CLICOLOR_FORCE") (← IO.getEnv "NO_COLOR")
    (← IO.getEnv "CLICOLOR") (← (← IO.getStdout).isTty))

/-- Writes the files a command wrote. -/
def writeFiles (outcome : Outcome) : IO Unit :=
  outcome.written.forM fun names =>
    match outcome.workspace.entry? names with
    | some (.file bytes) => IO.FS.writeBinFile ("/".intercalate names) (ByteArray.mk bytes)
    | _ => pure ()

/-- Runs a command line on the real file system, returning the exit status. -/
def runProgram (args : List String) : IO UInt32 := do
  let outcome ← match parseArgs args with
    | .error h =>
        pure { status := h.status, stdout := h.stdout, stderr := h.stderr, workspace := {} }
    | .ok inv => do
        let ws ← gatherWorkspace inv.request
        let now ← Std.Time.Timestamp.now
        let stamp := Report.timestampText now.toNanosecondsSinceUnixEpoch.val
        pure (execute inv ws stamp (← useColor))
  writeFiles outcome
  IO.eprint outcome.stderr
  IO.print outcome.stdout
  pure outcome.status.toUInt32

end CiManifest.Command

/-- Runs the linter's command line. -/
def main (args : List String) : IO UInt32 :=
  CiManifest.Command.runProgram args
