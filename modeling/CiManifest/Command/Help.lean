import CiManifest.Command.Spec

/-!
# Help pages

A command's help page is its purpose, its usage line, and then the sections
`Commands:`, `Arguments:` and `Options:` that apply, separated by blank lines.

In the short page every entry is one line: the entry, padded so that the help
texts of a section line up two columns after its widest entry, then the help,
then the default value and the allowed values in brackets. Options without a
short letter are indented as if they had one.

The long page (asked for with `--help`, when the command has allowed values
with help of their own) puts each help text on the next line, indented by ten
columns, separates entries by a blank line, and lists the allowed values one
per line with their help.
-/

namespace CiManifest.Command

/-- A run of spaces. -/
def spaces (n : Nat) : String :=
  String.ofList (List.replicate n ' ')

/-- The indentation of help texts in a long page. -/
def nextLineIndent : String := spaces 10

/-- The bracketed notes after an argument's help: its default value, and in
the short page its allowed values. -/
def notes (a : ArgSpec) (long : Bool) : List String :=
  let fallback := match a.action with
    | .value _ _ (some v) _ => ["[default: " ++ v ++ "]"]
    | _ => []
  let choices := if long || a.choices.isEmpty then []
    else ["[possible values: " ++ ", ".intercalate (a.choices.map Prod.fst) ++ "]"]
  fallback ++ choices

/-- The help of the help switch, which points to the other page when there
is one. -/
def helpSwitchText (hasLong long : Bool) : String :=
  if !hasLong then "Print help"
  else if long then "Print help (see a summary with '-h')"
  else "Print help (see more with '--help')"

/-- An argument's help text on a page. -/
def argHelp (a : ArgSpec) (hasLong long : Bool) : String :=
  if a.action == .help then helpSwitchText hasLong long else a.help

/-- How an entry starts: two spaces, then the short letter and a comma, or
four spaces for an option with only a long name. -/
def entryHead (a : ArgSpec) : String :=
  "  " ++
    (match a.short, a.long with
      | some s, some _ => "-" ++ String.singleton s ++ ", "
      | some s, none => "-" ++ String.singleton s
      | none, some _ => "    "
      | none, none => "") ++
    (match a.long with
      | some l => "--" ++ l
      | none => "") ++ a.suffix

/-- The width an entry takes up before its help in the short page. -/
def entryWidth (a : ArgSpec) : Nat :=
  if a.isPositional then a.display.length else a.display.length + 4

/-- The allowed values listed one per line with their help, for the long
page. -/
def choiceLines (choices : List (String × String)) : String :=
  let widest := (choices.map fun p => p.1.length).foldl max 0
  "\n\n" ++ nextLineIndent ++ "Possible values:" ++
    String.join (choices.map fun p =>
      "\n" ++ nextLineIndent ++ "- " ++ p.1 ++ ": " ++ spaces (widest - p.1.length) ++ p.2)

/-- One entry of an `Arguments:` or `Options:` section. -/
def argEntry (a : ArgSpec) (widest : Nat) (hasLong long : Bool) : String :=
  let help := argHelp a hasLong long
  let noted := notes a long
  if long then
    let body := help ++ (if noted.isEmpty then "" else "\n\n" ++ "\n".intercalate noted)
    let listed := if a.choices.any (fun p => !p.2.isEmpty) then choiceLines a.choices else ""
    entryHead a ++ "\n" ++ nextLineIndent ++
      body.replace "\n" ("\n" ++ nextLineIndent) ++ listed
  else
    let body := " ".intercalate ((if help.isEmpty then [] else [help]) ++ noted)
    entryHead a ++ spaces (widest + 2 - entryWidth a) ++ body

/-- A section of arguments. -/
def argSection (title : String) (args : List ArgSpec) (hasLong long : Bool) : Option String :=
  if args.isEmpty then none
  else
    let widest := (args.map entryWidth).foldl max 2
    some (title ++ ":\n" ++
      (if long then "\n\n" else "\n").intercalate (args.map fun a => argEntry a widest hasLong long))

/-- The `Commands:` section. -/
def commandSection (subcommands : List (String × String)) : Option String :=
  if subcommands.isEmpty then none
  else
    let widest := (subcommands.map fun p => p.1.length).foldl max 2
    some ("Commands:\n" ++ "\n".intercalate (subcommands.map fun p =>
      "  " ++ p.1 ++ spaces (widest - p.1.length + 2) ++ p.2))

/-- A command's help page; `long` asks for the long page, which is given only
when the command has one. -/
def CommandSpec.helpPage (c : CommandSpec) (long : Bool) : String :=
  let hasLong := c.hasLongHelp
  let long := long && hasLong
  let sections :=
    [ commandSection c.subcommands,
      argSection "Arguments" c.positional.toList hasLong long,
      argSection "Options" c.listedOptions hasLong long ].filterMap id
  c.about ++ "\n\nUsage: " ++ c.usage ++ "\n\n" ++ "\n\n".intercalate sections ++ "\n"

/-- The version line. -/
def versionText : String :=
  programName ++ " " ++ programVersion ++ "\n"

end CiManifest.Command
