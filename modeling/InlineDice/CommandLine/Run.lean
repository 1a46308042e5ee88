import InlineDice.CommandLine.Arguments
import InlineDice.CommandLine.Directory
import InlineDice.Text.Case
import InlineDice.Workbench

namespace InlineDice.CommandLine

/-- What a command line runs on: settings, random sources, and what it may read. How the standard input is
decoded, or why it cannot be, is up to the host, and so is what becomes of the mark `--` attached to an
option. -/
structure Host (σ : Type) where
  settings : Settings
  supply : Supply σ
  input : Bytes
  decodeInput : Bytes → Except Text Text
  openFile : Opener
  keepsMark : Bool

/-- What the HTTP service is started with. -/
structure Service where
  application : Text
  host : Text
  port : Int
  logLevel : Text
  deriving DecidableEq

/-- How a run ends: with a code it returns, with one it exits with before it has begun, or by a fault
that it does not answer. -/
inductive Ending where
  | returned (code : Nat)
  | exited (code : Nat)
  | escaped (fault : Fault)

/-- All that a run leaves behind: what it wrote, the service it started, the seeds it asked for and
its draws. -/
structure Outcome where
  ending : Ending
  stdout : Text
  stderr : Text
  started : Option Service
  asked : List (Option (Given Int))
  draws : List Draw

namespace Outcome

def ofEnding (ending : Ending) : Outcome := ⟨ending, [], [], none, [], []⟩

/-- A fault of the dice text is reported and makes the code 1; any other one escapes. -/
def failed (fault : Fault) : Outcome :=
  if fault.isDice then
    { ofEnding (.returned 1) with stderr := "error: ".toList ++ fault.message ++ ['\n'] }
  else ofEnding (.escaped fault)

end Outcome

def levels : List Text :=
  ["CRITICAL", "FATAL", "ERROR", "WARN", "WARNING", "INFO", "DEBUG", "NOTSET"].map String.toList

/-- Notes are shown to a verbose run, and on the levels that leave nothing out. -/
def showsNotes (verbose : Bool) (level : Text) : Except Fault Bool :=
  if verbose then .ok true
  else
    let level := Case.upper level
    if levels.contains level then
      .ok (level == "DEBUG".toList || level == "NOTSET".toList)
    else .error (.unknownLevel level)

def noteLine (part : String) (text : Text) : Text :=
  "DEBUG dicemode.".toList ++ part.toList ++ ": ".toList ++ text ++ ['\n']

def noteText : Note → Text
  | .rolled instructions plural =>
    noteLine "pipeline" ("Rolled ".toList ++ Nat.toDigits 10 instructions ++
      " instruction(s), ".toList ++ (if plural then "plural" else "single die").toList)
  | .expanded lines =>
    noteLine "pipeline" ("Expanded ".toList ++ Nat.toDigits 10 lines ++ " dice line(s)".toList)

def replacedText (lines : Nat) : Text :=
  noteLine "cli" ("Replaced ".toList ++ Nat.toDigits 10 lines ++ " line(s)".toList)

variable {σ : Type} [RandomSource σ]

/-- Does the work of a command at a pipeline built by the settings of the host. A seed that is given
counts instead of theirs, even if it is given as nothing, of which no source can be made. -/
def Host.atPipeline (host : Host σ) (given : Option (Given Int))
    (work : Station σ × Workbench σ → Outcome) : Outcome :=
  let seed := given.or (host.settings.rngSeed.map .value)
  let outcome : Outcome :=
    match seed, host.supply with
    | some .nothing, .fresh .. => .failed .seedUnsupported
    | _, _ => work ((Workbench.new host.settings host.supply).build none (seed.bind Given.value?))
  { outcome with asked := [seed] }

/-- Plays at a pipeline, and writes what `page` makes of the result. -/
def perform {α : Type} (notes : Bool) (play : Pipeline → Play σ α) (page : α → Text)
    (lastNote : α → Text) (place : Station σ × Workbench σ) : Outcome :=
  let played := (place.2.playAt place.1 (play place.1.pipeline)).1
  let side := if notes then played.notes.flatMap noteText else []
  match played.outcome with
  | .ok a => ⟨.returned 0, page a, side ++ if notes then lastNote a else [], none, [], played.draws⟩
  | .error fault =>
    let failure := Outcome.failed fault
    { failure with stderr := side ++ failure.stderr, draws := played.draws }

/-- Decodes what was read. Files hold UTF-8, whatever the host takes its standard input for. -/
def Host.decode (host : Host σ) (file : Option Text) (bytes : Bytes) : Except Fault Text :=
  match file with
  | none | some ['-'] => (host.decodeInput bytes).mapError .undecoded
  | some _ => (Utf8.decode bytes).mapError .notUtf8

/-- The document to expand: the file, or the standard input under the name `-` or none. -/
def document (host : Host σ) (file : Option Text) : Except Outcome Text := do
  let bytes ←
    match file with
    | none | some ['-'] => pure host.input
    | some path =>
      if path.contains (Char.ofNat 0) then throw (.ofEnding (.escaped .nullInPath))
      match host.openFile path with
      | .ok bytes => pure bytes
      | .error failure =>
        throw { Outcome.ofEnding (.returned 1) with
          stderr := "error: ".toList ++ failure.message path ++ ['\n'] }
  match host.decode file bytes with
  | .ok text => return Text.unifyLineEnds text
  | .error fault => throw (.ofEnding (.escaped fault))

/-- A host or port that is empty or zero counts as not given. -/
def service (settings : Settings) (host : Option (Given Text)) (port : Option (Given Int)) :
    Service where
  application := "dicemode.main:app".toList
  host := ((host.bind Given.value?).filter (· ≠ [])).getD settings.serverHost
  port := ((port.bind Given.value?).filter (· ≠ 0)).getD settings.serverPort
  logLevel := Case.lower settings.logLevel

/-- Runs a command. The pipeline is built before a document is read, so its seed is asked for even if
there is none to read. -/
def Command.run (host : Host σ) (seed : Option (Given Int)) (notes : Bool) : Command → Outcome
  | .roll texts =>
    host.atPipeline seed (perform notes (·.roll (Text.join [' '] texts)) id fun _ => [])
  | .expand file strict =>
    host.atPipeline seed fun place =>
      match document host file with
      | .ok text =>
        perform notes (·.expand strict text) Expanded.text (fun e => replacedText e.replaced) place
      | .error failure => failure
  | .serve address port =>
    { Outcome.ofEnding (.returned 0) with started := some (service host.settings address port) }

/-- Runs a command line. Without a command it shows the page. -/
def run (host : Host σ) (args : List Text) : Outcome :=
  match Arguments.read host.keepsMark args with
  | .error (.page text) => { Outcome.ofEnding (.exited 0) with stdout := text }
  | .error (.refused program usage complaint) =>
    { Outcome.ofEnding (.exited 2) with
      stderr := usage ++ program ++ ": error: ".toList ++ complaint ++ ['\n'] }
  | .ok ⟨_, _, none⟩ => { Outcome.ofEnding (.returned 1) with stdout := Pages.page }
  | .ok ⟨verbose, seed, some command⟩ =>
    match showsNotes verbose host.settings.logLevel with
    | .error fault => .ofEnding (.escaped fault)
    | .ok notes => command.run host seed notes

end InlineDice.CommandLine
