import CiManifest.Report.Format

/-!
# The shape of the command line

The command line is `pipeline-lint [-v]... <COMMAND>`, the commands being
`lint <PATH>` with `--trusted`, `-f` or `--format`, `-o` or `--output` and `--config`,
`list-rules`, `explain <RULE_ID>`, and `help [COMMAND]...`. Every command takes
`-v` or `--verbose` (counted, also before the command's name) and `-h` or
`--help`; only the top level takes `-V` or `--version`.

Each argument is described once here, with its help text, and the parser, the
usage lines and the help pages are all read off these descriptions. Two orders
matter: options are tried for suggestions in the order they are declared, and
listed in help pages by display position, then by short letter (lowercase
first) or long name.
-/

namespace CiManifest.Command

open Report

/-- The program's name. -/
def programName : String := "pipeline-lint"

/-- The program's version. -/
def programVersion : String := "0.4.0"

/-- What an argument does when it is given. -/
inductive Action where
  /-- A switch, given at most once. -/
  | flag
  /-- A switch counted each time it is given. -/
  | count
  /-- Prints the help page. -/
  | help
  /-- Prints the version. -/
  | version
  /-- Takes one value, shown as `name`; `choices` are the allowed values with
  their help (no choice means any value), `fallback` the value when absent,
  and `allowsEmpty` whether the empty text is a value. -/
  | value (name : String) (choices : List (String × String)) (fallback : Option String)
      (allowsEmpty : Bool)
  deriving Repr, BEq, Inhabited

/-- One argument: an option when it has a long name or a short letter,
otherwise a positional value; `many` marks a positional value that may be
given any number of times, or not at all. -/
structure ArgSpec where
  id : String
  long : Option String := none
  short : Option Char := none
  action : Action
  help : String
  order : Nat := 999
  many : Bool := false
  deriving Repr, BEq, Inhabited

namespace ArgSpec

/-- Whether the argument is a positional value. -/
def isPositional (a : ArgSpec) : Bool :=
  a.long.isNone && a.short.isNone

/-- Whether the argument takes a value. -/
def takesValue (a : ArgSpec) : Bool :=
  match a.action with
  | .value .. => true
  | _ => false

/-- The allowed values, empty when any value is allowed. -/
def choices (a : ArgSpec) : List (String × String) :=
  match a.action with
  | .value _ choices _ _ => choices
  | _ => []

/-- What follows the argument's name: its value's name, or `...` for a
counted switch. -/
def suffix (a : ArgSpec) : String :=
  match a.action with
  | .value name .. =>
      if !a.isPositional then " <" ++ name ++ ">"
      else if a.many then "[" ++ name ++ "]..."
      else "<" ++ name ++ ">"
  | .count => "..."
  | _ => ""

/-- How the argument is named in messages: `--format <FORMAT>`, `<PATH>`. -/
def display (a : ArgSpec) : String :=
  let head := match a.long, a.short with
    | some l, _ => "--" ++ l
    | none, some s => "-" ++ String.singleton s
    | none, none => ""
  head ++ a.suffix

/-- The key that orders options in help pages. -/
def sortKey (a : ArgSpec) : Nat × String :=
  let key := match a.short, a.long with
    | some s, _ => String.singleton s.toLower ++ (if s.isLower then "0" else "1")
    | none, some l => l
    | none, none => "\x7b" ++ a.id
  (a.order, key)

end ArgSpec

/-- A command: its name as used in usage lines, what it is for, its options in
declaration order, its positional value, and its subcommands' names and
purposes. -/
structure CommandSpec where
  usageName : String
  about : String
  options : List ArgSpec
  positional : Option ArgSpec := none
  subcommands : List (String × String) := []
  deriving Repr, Inhabited

/-- The counted verbosity switch, shared by every command. -/
def verboseArg : ArgSpec :=
  { id := "verbose", long := some "verbose", short := some 'v', action := .count
    help := "Increase log verbosity (-v info, -vv debug, -vvv trace)", order := 0 }

/-- The help switch. -/
def helpArg : ArgSpec :=
  { id := "help", long := some "help", short := some 'h', action := .help, help := "Print help" }

/-- The version switch. -/
def versionArg : ArgSpec :=
  { id := "version", long := some "version", short := some 'V', action := .version
    help := "Print version" }

/-- The report formats with their help. -/
def formatChoices : List (String × String) :=
  [ ("pretty", "Human-readable colored text"),
    ("json", "Machine-readable JSON"),
    ("sarif", "[SARIF 2.1.0](https://sarifweb.azurewebsites.net/) for code-scanning integrations") ]

/-- The command `lint`. -/
def lintCommand : CommandSpec :=
  { usageName := programName ++ " lint"
    about := "Lint a pipeline file, or every pipeline file under a directory"
    options :=
      [ { id := "trusted", long := some "trusted", action := .flag, order := 0
          help := "Treat the repository as trusted (allows privileged features)" },
        { id := "format", long := some "format", short := some 'f', order := 1
          action := .value "FORMAT" formatChoices (some "pretty") false
          help := "Output format" },
        { id := "output", long := some "output", short := some 'o', order := 2
          action := .value "OUTPUT" [] none false
          help := "Write output to file instead of stdout" },
        { id := "config", long := some "config", order := 3
          action := .value "CONFIG" [] none false
          help := "Custom config file path" },
        verboseArg, helpArg ]
    positional := some
      { id := "path", action := .value "PATH" [] none false
        help := "Path to a YAML file or a directory" } }

/-- The command `list-rules`. -/
def listRulesCommand : CommandSpec :=
  { usageName := programName ++ " list-rules"
    about := "List all rules with their diagnostics"
    options := [verboseArg, helpArg] }

/-- The command `explain`. -/
def explainCommand : CommandSpec :=
  { usageName := programName ++ " explain"
    about := "Show full explanation for a rule"
    options := [verboseArg, helpArg]
    positional := some
      { id := "rule_id", action := .value "RULE_ID" [] none true
        help := "Rule ID (e.g., \"trust/privileged\")" } }

/-- What the command `help` is for. -/
def helpAbout : String := "Print this message or the help of the given subcommand(s)"

/-- The command `help`, as its own help page shows it. -/
def helpCommand : CommandSpec :=
  { usageName := programName ++ " help"
    about := helpAbout
    options := []
    positional := some
      { id := "subcommand", action := .value "COMMAND" [] none true, many := true
        help := "Print help for the subcommand(s)" } }

/-- The commands run by name, in order. -/
def commands : List CommandSpec := [lintCommand, listRulesCommand, explainCommand]

/-- The name a command is called by. -/
def CommandSpec.name (c : CommandSpec) : String :=
  (c.usageName.splitOn " ").getLast?.getD c.usageName

/-- The top level. -/
def topCommand : CommandSpec :=
  { usageName := programName
    about := "Static linter for CI pipeline YAML"
    options := [verboseArg, helpArg, versionArg]
    subcommands := commands.map (fun c => (c.name, c.about)) ++ [("help", helpAbout)] }

namespace CommandSpec

/-- The command's options ordered as its help page lists them. -/
def listedOptions (c : CommandSpec) : List ArgSpec :=
  c.options.mergeSort fun a b => a.sortKey.1 < b.sortKey.1 ||
    (a.sortKey.1 == b.sortKey.1 && decide (a.sortKey.2 ≤ b.sortKey.2))

/-- Whether the usage line shows `[OPTIONS]`: some option other than help
and version. -/
def showsOptionsTag (c : CommandSpec) : Bool :=
  c.options.any fun a => a.action != .help && a.action != .version

/-- What closes a usage line: the positional value, then `<COMMAND>` when a
command must follow. -/
def usageTail (c : CommandSpec) : String :=
  (match c.positional with
    | some p => " " ++ p.display
    | none => "") ++
  (if c.subcommands.isEmpty then "" else " <COMMAND>")

/-- The full usage line. -/
def usage (c : CommandSpec) : String :=
  c.usageName ++ (if c.showsOptionsTag then " [OPTIONS]" else "") ++ c.usageTail

/-- The usage line naming the options given (by id, in order) instead of
`[OPTIONS]`; the full line when none was given. -/
def usageWith (c : CommandSpec) (given : List String) : String :=
  let named := given.filterMap fun id => c.options.find? (·.id == id)
  if given.isEmpty then c.usage
  else c.usageName ++ String.join (named.map (" " ++ ·.display)) ++ c.usageTail

/-- The option with a long name. -/
def findLong? (c : CommandSpec) (name : String) : Option ArgSpec :=
  c.options.find? (·.long == some name)

/-- The option with a short letter. -/
def findShort? (c : CommandSpec) (letter : Char) : Option ArgSpec :=
  c.options.find? (·.short == some letter)

/-- The long names, in declaration order. -/
def longNames (c : CommandSpec) : List String :=
  c.options.filterMap ArgSpec.long

/-- The subcommand with a name. -/
def findCommand? (c : CommandSpec) (name : String) : Option CommandSpec :=
  if c.subcommands.isEmpty then none
  else if name == "help" then some helpCommand
  else commands.find? (·.name == name)

/-- Whether some value of the command has choices with help, which makes
its long help page differ from the short one. -/
def hasLongHelp (c : CommandSpec) : Bool :=
  c.options.any fun a => a.choices.any fun p => !p.2.isEmpty

end CommandSpec

end CiManifest.Command
