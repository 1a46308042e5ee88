import InlineDice.CommandLine.Grammar
import InlineDice.CommandLine.Pages

namespace InlineDice.CommandLine

/-- What a command line can ask for. -/
inductive Command where
  | roll (texts : List Text)
  | expand (file : Option Text) (strict : Bool)
  | serve (host : Option (Given Text)) (port : Option (Given Int))
  deriving DecidableEq

/-- A command line as given. -/
structure Arguments where
  verbose : Bool
  seed : Option (Given Int)
  command : Option Command
  deriving DecidableEq

namespace Arguments

def helpSwitch {ρ : Type} : Switch ρ := ⟨["-h".toList, "--help".toList], .help⟩

/-- An option whose value is an integer. -/
def integer {ρ : Type} (set : Given Int → ρ → ρ) : Effect ρ :=
  .value fun given values =>
    match given with
    | .nothing => .ok (set .nothing values)
    | .value text =>
      match Integer.read? text with
      | some n => .ok (set (.value n) values)
      | none => .error ("invalid int value: ".toList ++ Quoted.encode text)

def rollGrammar : Grammar (List Text) where
  program := "dicemode roll".toList
  usage := Pages.rollUsage
  page := Pages.rollPage
  switches := [helpSwitch]
  operands := .atLeastOne "text".toList fun texts _ => texts

def expandGrammar : Grammar (Option Text × Bool) where
  program := "dicemode expand".toList
  usage := Pages.expandUsage
  page := Pages.expandPage
  switches := [helpSwitch, ⟨["--strict".toList], .flag fun values => (values.1, true)⟩]
  operands := .atMostOne fun file values => (some file, values.2)

def serveGrammar (keepsMark : Bool) : Grammar (Option (Given Text) × Option (Given Int)) where
  program := "dicemode serve".toList
  usage := Pages.serveUsage
  page := Pages.servePage
  switches :=
    [helpSwitch,
     ⟨["--host".toList], .value fun host values => .ok (some host, values.2)⟩,
     ⟨["--port".toList, "-p".toList], integer fun port values => (values.1, some port)⟩]
  operands := .none
  keepsMark

def commandNames : List Text := ["roll".toList, "expand".toList, "serve".toList]

def unknownCommand (name : Text) : Stop :=
  .refused "dicemode".toList Pages.usage
    ("argument <command>: invalid choice: ".toList ++ Quoted.encode name ++ " (choose from ".toList ++
      Text.join ", ".toList (commandNames.map Quoted.encode) ++ ")".toList)

/-- Reads the arguments of a command. -/
def readCommand (keepsMark : Bool) (name : Text) (args : List Text) :
    Except Stop (Command × List Text) :=
  if name = "roll".toList then
    (rollGrammar.parse [] args).map fun (texts, extras) => (.roll texts, extras)
  else if name = "expand".toList then
    (expandGrammar.parse (none, false) args).map fun (values, extras) =>
      (.expand values.1 values.2, extras)
  else if name = "serve".toList then
    ((serveGrammar keepsMark).parse (none, none) args).map fun (values, extras) =>
      (.serve values.1 values.2, extras)
  else .error (unknownCommand name)

def grammar (keepsMark : Bool) : Grammar Arguments where
  program := "dicemode".toList
  usage := Pages.usage
  page := Pages.page
  switches :=
    [helpSwitch,
     ⟨["--verbose".toList, "-v".toList], .flag fun values => { values with verbose := true }⟩,
     ⟨["--seed".toList], integer fun seed values => { values with seed := some seed }⟩]
  operands := .command fun name args values =>
    (readCommand keepsMark name args).map fun (command, extras) =>
      ({ values with command := some command }, extras)
  keepsMark

/-- Reads a command line. Arguments that nothing recognizes refuse it in the end. -/
def read (keepsMark : Bool) (args : List Text) : Except Stop Arguments := do
  let (values, extras) ← (grammar keepsMark).parse ⟨false, none, none⟩ args
  if extras = [] then return values
  else (grammar keepsMark).refuse ("unrecognized arguments: ".toList ++ Text.join [' '] extras)

end Arguments

end InlineDice.CommandLine
