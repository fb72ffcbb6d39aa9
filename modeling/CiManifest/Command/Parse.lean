import CiManifest.Command.Refusal
import CiManifest.Command.Help

/-!
# Reading the command line

Words are read left to right. At the top level a word that names a command
hands the rest of the words to that command; `help` shows the help page of the
commands named after it instead. Within a command:

* `--` makes every later word a plain value;
* `--name` and `--name=value` are long options, `-abc` a cluster of short
  switches, where a letter that takes a value takes the rest of the cluster
  (after an optional `=`) or, when nothing is left, the next plain word;
* any other word is the positional value.

An option that waits for its value is settled only when the next argument
comes or the words run out, and only then is its value checked; so `-o -v`
refuses the missing value of `-o`, while `-o -x` refuses the unknown `-x`.

Switches and options may each be given once; `-v` is counted. Help and version
stop reading as soon as they are met. The verbosity given after a command's
name wins over the one given before it.
-/

namespace CiManifest.Command

open Report

/-- What a command line asks for. -/
inductive Request where
  /-- Lints a path, with the switches and options of `lint`. -/
  | lint (path : String) (trusted : Bool) (format : Format) (output config : Option String)
  /-- Lists the rules. -/
  | listRules
  /-- Explains one rule. -/
  | explain (ruleId : String)
  deriving Repr, BEq, Inhabited

/-- A command line that was read: how verbose to be, and what to do. -/
structure Invocation where
  verbosity : Nat
  request : Request
  deriving Repr, BEq, Inhabited

/-- What has been read of a command's words: the arguments given (by id, in
the order they count for usage lines), the values, the verbosity, the option
waiting for its value, whether the positional value was taken, and whether
`--` was passed. -/
structure Matched where
  given : List String := []
  values : List (String × String) := []
  verbosity : Nat := 0
  pending : Option (ArgSpec × List String) := none
  positionalTaken : Bool := false
  escaped : Bool := false
  deriving Inhabited

namespace Matched

/-- Records an argument as given, keeping its place when it already was. -/
def note (m : Matched) (id : String) : Matched :=
  if m.given.contains id then m else { m with given := m.given ++ [id] }

/-- Forgets that an argument was given. -/
def forget (m : Matched) (id : String) : Matched :=
  { m with given := m.given.erase id }

/-- The value given to an argument. -/
def value? (m : Matched) (id : String) : Option String :=
  m.values.lookup id

/-- Whether an option waits for its value. -/
def waiting (m : Matched) : Bool :=
  match m.pending with
  | some (_, []) => true
  | _ => false

end Matched

/-- Checks a value against what its argument allows. -/
def checkValue (a : ArgSpec) (v : String) : Option Refusal :=
  match a.action with
  | .value _ choices _ allowsEmpty =>
      let names := choices.map Prod.fst
      if !names.isEmpty && !names.contains v then some (.invalidValue a.display v names)
      else if v.isEmpty && !allowsEmpty then some (.invalidValue a.display "" names)
      else none
  | _ => none

/-- Applies an argument of command `c` with the values given to it; `long`
tells whether it was named by its long name. Returns what was read, with the
reason to stop when there is one. -/
def apply (c : CommandSpec) (m : Matched) (a : ArgSpec) (vals : List String) (long : Bool) :
    Matched × Option Halt :=
  match a.action with
  | .help => (m, some (.help (c.helpPage long)))
  | .version => (m, some (.version versionText))
  | .count => ({ (m.forget a.id).note a.id with verbosity := min 255 (m.verbosity + 1) }, none)
  | .flag =>
      if m.given.contains a.id then (m.forget a.id, some (.refused (.repeated a.display c.usage)))
      else (m.note a.id, none)
  | .value .. =>
      match vals with
      | [] => (m, some (.refused (.invalidValue a.display "" (a.choices.map Prod.fst))))
      | v :: _ =>
          if m.given.contains a.id then
            (m.forget a.id, some (.refused (.repeated a.display c.usage)))
          else
            let m := m.note a.id
            match checkValue a v with
            | some r => (m, some (.refused r))
            | none => ({ m with values := m.values ++ [(a.id, v)] }, none)

/-- Settles the option waiting for its value, if any. -/
def settle (c : CommandSpec) (m : Matched) : Matched × Option Halt :=
  match m.pending with
  | none => (m, none)
  | some (a, vals) => apply c { m with pending := none } a vals false

/-- Settles the waiting option, stopping on its refusal. -/
def settled (c : CommandSpec) (m : Matched) : Except Halt Matched :=
  match settle c m with
  | (m, none) => .ok m
  | (_, some h) => .error h

/-- Settles the waiting option, then applies an argument. -/
def react (c : CommandSpec) (m : Matched) (a : ArgSpec) (vals : List String) (long : Bool) :
    Except Halt Matched := do
  let m ← settled c m
  match apply c m a vals long with
  | (m, none) => pure m
  | (_, some h) => throw h

/-- The tip for passing a dash-led word as a value. -/
def valueTip (word : String) : String :=
  "to pass '" ++ word ++ "' as a value, use '-- " ++ word ++ "'"

/-- A command's long option most similar to a mistyped one, looked for among
the commands named in the words that follow, the nearest first. -/
def commandOptionTip (name : String) (later : List String) : Option String :=
  let found := commands.filterMap fun sub =>
    match Text.mostSimilar? name sub.longNames, later.idxOf? sub.name with
    | some s, some position => some (position, "'" ++ sub.name ++ " --" ++ s ++ "' exists")
    | _, _ => none
  let nearest := found.foldl
    (fun (best : Option (Nat × String)) p => match best with
      | some b => if p.1 < b.1 then some p else some b
      | none => some p)
    none
  nearest.map Prod.snd

/-- The refusal of an unknown long option `--name`; `later` are the words
after it. -/
def unknownLong (c : CommandSpec) (m : Matched) (name : String) (later : List String) :
    Refusal :=
  let word := "--" ++ name
  match Text.mostSimilar? name c.longNames with
  | some s =>
      let given := match c.findLong? s with
        | some a => (m.note a.id).given
        | none => m.given
      .unexpectedArgument word ["a similar argument exists: '--" ++ s ++ "'"] (c.usageWith given)
  | none =>
      let tips := match (if c.subcommands.isEmpty then none else commandOptionTip name later) with
        | some t => [t]
        | none => if c.positional.isSome then [valueTip word] else []
      .unexpectedArgument word tips (c.usageWith m.given)

/-- Reads a long option word, `--name` or `--name=value`. -/
def readLong (c : CommandSpec) (m : Matched) (word : String) (later : List String) :
    Except Halt Matched :=
  let body := String.ofList (word.toList.drop 2)
  let (name, attached) := match body.splitOn "=" with
    | n :: v :: more => (n, some ("=".intercalate (v :: more)))
    | _ => (body, none)
  match c.findLong? name with
  | some a =>
      if a.takesValue then
        match attached with
        | some v => react c m a [v] true
        | none => do
            let m ← settled c m
            pure { m with pending := some (a, []) }
      else
        match attached with
        | some v =>
            .error (.refused (.unexpectedValue v a.display (c.usageWith (m.given ++ [a.id]))))
        | none => react c m a [] true
  | none => .error (.refused (unknownLong c (settle c m).1 name later))

/-- Reads the letters of a short cluster. -/
def readShort (c : CommandSpec) (m : Matched) : List Char → Except Halt Matched
  | [] => .ok m
  | letter :: more =>
      match c.findShort? letter with
      | none =>
          let word := "-" ++ String.singleton letter
          .error (.refused (.unexpectedArgument word
            (if c.positional.isSome then [valueTip word] else []) c.usage))
      | some a =>
          if !a.takesValue then do
            let m ← react c m a [] false
            readShort c m more
          else
            match more with
            | [] => do
                let m ← settled c m
                pure { m with pending := some (a, []) }
            | '=' :: v => react c m a [String.ofList v] false
            | v => react c m a [String.ofList v] false

/-- Whether a word is a cluster of short switches: a dash and more, not two
dashes. -/
def isShortCluster (word : String) : Bool :=
  word.startsWith "-" && !word.startsWith "--" && word != "-"

/-- Settles what is waiting and checks that the positional value was given. -/
def finish (c : CommandSpec) (m : Matched) : Except Halt Matched := do
  let m ← settled c m
  match c.positional with
  | some p =>
      if !m.positionalTaken && !p.many then
        throw (.refused (.missingArguments [p.display] (c.usageWith (m.given ++ [p.id]))))
      else pure m
  | none => pure m

/-- Reads the words after a command's name. -/
def readWords (c : CommandSpec) : List String → Matched → Except Halt Matched
  | [], m => finish c m
  | word :: rest, m =>
      if !m.escaped && word == "--" then readWords c rest { m with escaped := true }
      else if !m.escaped && word.startsWith "--" then do
        readWords c rest (← readLong c m word rest)
      else if !m.escaped && isShortCluster word then do
        readWords c rest (← readShort c m (word.toList.drop 1))
      else if !m.escaped && m.waiting then
        readWords c rest { m with pending := m.pending.map fun p => (p.1, [word]) }
      else
        match c.positional with
        | some p =>
            if m.positionalTaken then .error (.refused (.unexpectedArgument word [] c.usage))
            else do
              let m ← settled c m
              readWords c rest { m with pending := some (p, [word]), positionalTaken := true }
        | none => .error (.refused (.unexpectedArgument word [] c.usage))

/-- The help page named by the words after `help`: each word names a
command of the one before. -/
def helpFor (c : CommandSpec) : List String → Halt
  | [] => .help (c.helpPage true)
  | word :: rest =>
      match c.findCommand? word with
      | some sub => helpFor sub rest
      | none => .refused (.unrecognizedSubcommand word [] c.usage)

/-- The refusal of a top-level word that names no command. -/
def unknownCommand (word : String) (escaped : Bool) : Refusal :=
  if escaped && (topCommand.findCommand? word).isSome then
    .unexpectedArgument word
      ["subcommand '" ++ word ++ "' exists; to use it, remove the '--' before it"]
      topCommand.usage
  else
    .unrecognizedSubcommand word (Text.similarTo word (topCommand.subcommands.map Prod.fst))
      topCommand.usage

/-- The verbosity: the one given after the command's name if any, else the
one before it. -/
def verbosityOf (top sub : Matched) : Nat :=
  if sub.given.contains "verbose" then sub.verbosity else top.verbosity

/-- Reads a command's words and builds its request. -/
def readCommand (top : Matched) (c : CommandSpec) (words : List String)
    (request : Matched → Request) : Except Halt Invocation := do
  let m ← readWords c words {}
  pure { verbosity := verbosityOf top m, request := request m }

/-- The request of `lint`. -/
def lintRequest (m : Matched) : Request :=
  .lint ((m.value? "path").getD "") (m.given.contains "trusted")
    (((m.value? "format").bind Format.ofName?).getD .pretty) (m.value? "output")
    (m.value? "config")

/-- Reads the top-level words. -/
def readTop : List String → Matched → Except Halt Invocation
  | [], m =>
      if m.given.isEmpty then .error (.bare (topCommand.helpPage false))
      else .error (.refused (.missingSubcommand programName
        (topCommand.subcommands.map Prod.fst) topCommand.usage))
  | word :: rest, m =>
      if !m.escaped && word == "help" then .error (helpFor topCommand rest)
      else if !m.escaped && word == "lint" then readCommand m lintCommand rest lintRequest
      else if !m.escaped && word == "list-rules" then
        readCommand m listRulesCommand rest fun _ => .listRules
      else if !m.escaped && word == "explain" then
        readCommand m explainCommand rest fun s => .explain ((s.value? "rule_id").getD "")
      else if !m.escaped && word == "--" then readTop rest { m with escaped := true }
      else if !m.escaped && word.startsWith "--" then do
        readTop rest (← readLong topCommand m word rest)
      else if !m.escaped && isShortCluster word then do
        readTop rest (← readShort topCommand m (word.toList.drop 1))
      else .error (.refused (unknownCommand word m.escaped))

/-- Reads a command line (without the program's name). -/
def parseArgs (args : List String) : Except Halt Invocation :=
  readTop args {}

end CiManifest.Command
