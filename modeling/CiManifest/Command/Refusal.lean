import CiManifest.Command.Spec
import CiManifest.Text.Similarity

/-!
# Refused command lines

A command line that does not fit is refused with a message of a fixed shape:
`error: ` and what is wrong, then tips (a name similar to a mistyped one, or how
to pass a dash-led word as a value), then the usage line, then a pointer to
`--help`:

```text
error: unexpected argument '--foramt' found

  tip: a similar argument exists: '--format'

Usage: pipeline-lint lint --format <FORMAT> <PATH>

For more information, try '--help'.
```

A value outside a fixed set names the allowed values and, when one is similar
enough, suggests it; such a refusal has no usage line.
-/

namespace CiManifest.Command

/-- Why a command line is refused. -/
inductive Refusal where
  /-- A word that names no argument; `tips` are already worded. -/
  | unexpectedArgument (word : String) (tips : List String) (usage : String)
  /-- A word in a command's place that names no command. -/
  | unrecognizedSubcommand (word : String) (similar : List String) (usage : String)
  /-- A value that is not allowed; the empty value reads as a missing one. -/
  | invalidValue (arg value : String) (choices : List String)
  /-- A value given to a switch. -/
  | unexpectedValue (value arg usage : String)
  /-- A switch or option given twice. -/
  | repeated (arg usage : String)
  /-- Required values that were not given. -/
  | missingArguments (args : List String) (usage : String)
  /-- No command was named. -/
  | missingSubcommand (program : String) (choices : List String) (usage : String)
  deriving Repr, BEq, Inhabited

/-- A tip line. -/
def tipLine (text : String) : String :=
  "\n  tip: " ++ text

/-- The tip naming similar things of a kind. -/
def similarTip (kind : String) : List String → String
  | [] => ""
  | [one] => tipLine ("a similar " ++ kind ++ " exists: '" ++ one ++ "'")
  | many => tipLine ("some similar " ++ kind ++ "s exist: " ++
      ", ".intercalate (many.map fun m => "'" ++ m ++ "'"))

/-- The line listing allowed values, or nothing when any value is allowed. -/
def valuesLine (title : String) (values : List String) : String :=
  if values.isEmpty then "" else "\n  [" ++ title ++ ": " ++ ", ".intercalate values ++ "]"

/-- Puts a refusal together from its message, its tips and its usage. -/
def refusalText (message : String) (tips : String) (usage : Option String) : String :=
  "error: " ++ message ++ (if tips.isEmpty then "" else "\n" ++ tips) ++
    (match usage with
      | some u => "\n\nUsage: " ++ u
      | none => "") ++
    "\n\nFor more information, try '--help'.\n"

/-- The text of a refusal, as written to standard error. -/
def Refusal.text : Refusal → String
  | .unexpectedArgument word tips usage =>
      refusalText ("unexpected argument '" ++ word ++ "' found")
        (String.join (tips.map tipLine)) (some usage)
  | .unrecognizedSubcommand word similar usage =>
      refusalText ("unrecognized subcommand '" ++ word ++ "'") (similarTip "subcommand" similar)
        (some usage)
  | .invalidValue arg value choices =>
      let message := if value.isEmpty then
          "a value is required for '" ++ arg ++ "' but none was supplied"
        else "invalid value '" ++ value ++ "' for '" ++ arg ++ "'"
      let tips := match Text.mostSimilar? value choices with
        | some s => similarTip "value" [s]
        | none => ""
      refusalText (message ++ valuesLine "possible values" choices) tips none
  | .unexpectedValue value arg usage =>
      refusalText ("unexpected value '" ++ value ++ "' for '" ++ arg ++
        "' found; no more were expected") "" (some usage)
  | .repeated arg usage =>
      refusalText ("the argument '" ++ arg ++ "' cannot be used multiple times") "" (some usage)
  | .missingArguments args usage =>
      refusalText ("the following required arguments were not provided:" ++
        String.join (args.map ("\n  " ++ ·))) "" (some usage)
  | .missingSubcommand program choices usage =>
      refusalText ("'" ++ program ++ "' requires a subcommand but one was not provided" ++
        valuesLine "subcommands" choices) "" (some usage)

/-- Why reading a command line stops before anything runs. -/
inductive Halt where
  /-- A help page was asked for; it goes to standard output. -/
  | help (text : String)
  /-- The version was asked for; it goes to standard output. -/
  | version (text : String)
  /-- Nothing was given; the help page goes to standard error. -/
  | bare (text : String)
  /-- The command line was refused. -/
  | refused (r : Refusal)
  deriving Repr, BEq, Inhabited

namespace Halt

/-- The exit status: success for help and version, usage error otherwise. -/
def status : Halt → Nat
  | .help _ | .version _ => 0
  | .bare _ | .refused _ => 2

/-- What is written to standard output. -/
def stdout : Halt → String
  | .help text | .version text => text
  | .bare _ | .refused _ => ""

/-- What is written to standard error. -/
def stderr : Halt → String
  | .help _ | .version _ => ""
  | .bare text => text
  | .refused r => r.text

end Halt

end CiManifest.Command
