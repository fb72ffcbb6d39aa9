import CiManifest.Yaml.Event.Grammar
import CiManifest.Yaml.Node.Scalar

/-!
# Documents of a stream

A stream's events are cut into documents. Within a document every anchor gets
a number, the count of distinct anchor names seen before it in that document,
and an alias refers to the number its name has at that point. (Naming an anchor
again keeps the count, so the number it gets may already belong to another
anchor; the later one then wins.) An alias to a name never anchored ends the
document with an error.

A stream without any document reads as one empty document. A syntax error ends
the document being read; composition reports it when it runs out of events, or
after the document's value when that value is complete.
-/

namespace CiManifest.Yaml

open Decode

/-- An event of one document, as composition reads it. -/
inductive Item where
  | void
  | alias (id : Nat)
  | scalar (tag : Option String) (value : String) (style : ScalarStyle)
  | sequenceStart (tag : Option String)
  | sequenceEnd
  | mappingStart (tag : Option String)
  | mappingEnd
  deriving Repr, Inhabited

/-- Where a node sits in its document, for messages. -/
inductive Path where
  | root
  | index (parent : Path) (i : Nat)
  | key (parent : Path) (name : String)
  | alias (parent : Path)
  | unknown (parent : Path)
  deriving Repr, Inhabited

/-- A path as messages write it: `.` for the root, `steps[0].image` below it. -/
def Path.text : Path → String
  | .root => "."
  | .index p i => p.text ++ "[" ++ toString i ++ "]"
  | .key p name => (match p with
      | .root => ""
      | _ => p.text ++ ".") ++ name
  | .alias p => p.text
  | .unknown p => (match p with
      | .root => ""
      | _ => p.text ++ ".") ++ "?"

/-- Why reading a YAML value failed. -/
inductive LoadError where
  | malformed (error : SyntaxError)
  | unknownAnchor (m : Mark)
  | recursionLimit (m : Mark)
  | repetitionLimit
  | endOfStream
  | mismatch (error : Mismatch) (m : Mark) (path : Path)
  deriving Inhabited

/-- The ` at line L column C` of a message; nothing at the start of the text. -/
def markSuffix (m : Mark) : String :=
  if m.isStart then "" else " at " ++ m.text

/-- The message of a load error. -/
def LoadError.message : LoadError → String
  | .malformed e => e.message
  | .unknownAnchor m => "unknown anchor" ++ markSuffix m
  | .recursionLimit m => "recursion limit exceeded" ++ markSuffix m
  | .repetitionLimit => "repetition limit exceeded"
  | .endOfStream => "EOF while parsing a value"
  | .mismatch e m path =>
      let place := path.text
      (if place == "." then "" else place ++ ": ") ++ e.message Wording.mapping ++ markSuffix m

/-- One document: its events with their marks, the event each anchor number
points to, and the error that ended it early. -/
structure Document where
  items : Array (Item × Mark) := #[]
  targets : List (Nat × Nat) := []
  error : Option LoadError := none
  deriving Inhabited

/-- Sets the value of a key in an association list, keeping keys unique. -/
def assign {κ : Type} [BEq κ] (key : κ) (value : Nat) : List (κ × Nat) → List (κ × Nat)
  | [] => [(key, value)]
  | (k, v) :: rest => if k == key then (k, value) :: rest else (k, v) :: assign key value rest

/-- A document being gathered: its events so far, its anchor names with their
numbers, and whether it is the stream's first. -/
structure Gathering where
  items : Array (Item × Mark) := #[]
  names : List (String × Nat) := []
  targets : List (Nat × Nat) := []
  first : Bool := true

/-- Numbers an anchor, if the event has one. -/
def Gathering.anchor (g : Gathering) : Option String → Gathering
  | none => g
  | some name =>
      let id := g.names.length
      { g with names := assign name id g.names, targets := assign id g.items.size g.targets }

/-- Adds an event. -/
def Gathering.add (g : Gathering) (item : Item) (m : Mark) : Gathering :=
  { g with items := g.items.push (item, m) }

/-- The document gathered so far, ended by `error`. -/
def Gathering.finish (g : Gathering) (error : Option LoadError) : Document :=
  { items := g.items, targets := g.targets, error }

/-- Cuts events into documents; `error` is the syntax error after the last
event, if any. The list stops at the first document with an error. -/
def gather (error : Option SyntaxError) : Gathering → List Event → List Document
  | g, [] =>
      match error with
      | some e => [g.finish (some (.malformed e))]
      | none => []
  | g, event :: rest =>
      match event.kind with
      | .streamStart | .documentStart => gather error g rest
      | .streamEnd =>
          if g.first then
            let g := if g.items.isEmpty then g.add .void event.start else g
            [g.finish none]
          else []
      | .documentEnd => g.finish none :: gather error { first := false } rest
      | .alias name =>
          match g.names.lookup name with
          | some id => gather error (g.add (.alias id) event.start) rest
          | none => [g.finish (some (.unknownAnchor event.start))]
      | .scalar anchor tag value style =>
          gather error ((g.anchor anchor).add (.scalar tag value style) event.start) rest
      | .sequenceStart anchor tag =>
          gather error ((g.anchor anchor).add (.sequenceStart tag) event.start) rest
      | .sequenceEnd => gather error (g.add .sequenceEnd event.start) rest
      | .mappingStart anchor tag =>
          gather error ((g.anchor anchor).add (.mappingStart tag) event.start) rest
      | .mappingEnd => gather error (g.add .mappingEnd event.start) rest

/-- The documents of a text, up to the first one with an error. -/
def documents (text : String) : List Document :=
  let (evs, error) := events text
  gather error {} evs.toList

end CiManifest.Yaml
