import CiManifest.Config
import CiManifest.Workspace

/-!
# Loading the configuration

The configuration comes from a file named on the command line, which must
exist, or else from `pipeline-lint.toml` in the working directory when there
is one; without either the defaults apply. A file that exists but cannot be
read as text, or is not a valid configuration, is an error naming the file.
-/

namespace CiManifest

/-- The configuration file looked for in the working directory. -/
def defaultConfigFile : String := "pipeline-lint.toml"

/-- Why the configuration could not be loaded. -/
inductive ConfigError where
  | notFound (path : String)
  | unreadable (path reason : String)
  | invalid (path report : String)
  deriving Inhabited

/-- The message of a configuration error. -/
def ConfigError.message : ConfigError → String
  | .notFound path => "config file not found: " ++ path
  | .unreadable path reason => "failed to read config " ++ path ++ ": " ++ reason
  | .invalid path report => "failed to parse config " ++ path ++ ": " ++ report

/-- The name of a configuration error's kind. -/
def ConfigError.kindName : ConfigError → String
  | .notFound _ => "ConfigNotFound"
  | .unreadable _ _ => "ConfigRead"
  | .invalid _ _ => "ConfigParse"

/-- Loads the configuration from the named file, or from the default file
when it exists, or gives the defaults. -/
def loadConfig (ws : Workspace) (path : Option String) : Except ConfigError Config := do
  let source ← match path with
    | some p => if ws.pathExists p then pure (some p) else throw (.notFound p)
    | none => pure (if ws.pathExists defaultConfigFile then some defaultConfigFile else none)
  match source with
  | none => pure {}
  | some p =>
      match ws.readText p with
      | .error reason => throw (.unreadable p reason)
      | .ok text =>
          match Config.ofToml text with
          | .error report => throw (.invalid p report)
          | .ok config => pure config

end CiManifest
