import InlineDice.Pipeline
import InlineDice.Settings

namespace InlineDice

/-- Where pipelines get their random sources: one that all of them share, or a new one for each. The
seed that a new one is asked for with decides it; without a seed it may be another one each time, and
the number of sources asked for before tells the times apart. -/
inductive Supply (σ : Type) where
  | common (source : σ)
  | fresh (seeded : Int → σ) (unseeded : Nat → σ)

namespace Supply

variable {σ : Type}

/-- A new source for each pipeline, the same one whenever no seed is given. -/
def each (make : Option Int → σ) : Supply σ := fresh (fun seed => make (some seed)) fun _ => make none

/-- The source that a new pipeline keeps for itself, if it does not share the common one. -/
def own? (supply : Supply σ) (askedBefore : Nat) (seed : Option Int) : Option σ :=
  match supply with
  | common _ => none
  | fresh seeded unseeded => some (seed.elim (unseeded askedBefore) seeded)

/-- The source of a pipeline that keeps none. -/
def source : Supply σ → σ
  | common source => source
  | fresh _ unseeded => unseeded 0

def put (supply : Supply σ) (source : σ) : Supply σ :=
  match supply with
  | common _ => common source
  | fresh seeded unseeded => fresh seeded unseeded

end Supply

/-- A pipeline with the random source it keeps for itself, if any. -/
structure Station (σ : Type) where
  pipeline : Pipeline
  own : Option σ

/-- The ways into a pipeline. -/
inductive Entry where
  | recognize (text : Text)
  | roll (text : Text)
  | transform (text : Text)
  | replaceLine (strict : Bool) (text : Text)
  | expand (strict : Bool) (text : Text)
  deriving DecidableEq

/-- What a pipeline answers. -/
inductive Answer where
  | text (s : Option Text)
  | replacement (report : Option Text)
  | expanded (document : Expanded)
  deriving DecidableEq

def Pipeline.enter {σ : Type} [RandomSource σ] (p : Pipeline) : Entry → Play σ Answer
  | .recognize text => return .text (Notation.recognize text)
  | .roll text => do return .text (some (← p.roll text))
  | .transform text => do return .text (← p.transform text)
  | .replaceLine strict text => do return .replacement (← p.replaceLine strict text)
  | .expand strict text => do return .expanded (← p.expand strict text)

/-- Settings in force, the supply of random sources with the seeds it has been asked for, the shared
pipeline once it exists, and pipelines by name. -/
structure Workbench (σ : Type) where
  settings : Settings
  supply : Supply σ
  asked : List (Option Int)
  shared : Option (Station σ)
  named : List (Text × Station σ)

namespace Workbench

variable {σ : Type}

def new (settings : Settings) (supply : Supply σ) : Workbench σ := ⟨settings, supply, [], none, []⟩

/-- Builds a pipeline by the settings in force. A seed that is given counts instead of theirs. -/
def build (registry : Option Registry) (seed : Option Int) (bench : Workbench σ) :
    Station σ × Workbench σ :=
  let seed := seed.or bench.settings.rngSeed
  let pipeline : Pipeline :=
    ⟨registry.getD .builtin, bench.settings.nameWidthFloor, bench.settings.aggregateLabel⟩
  (⟨pipeline, bench.supply.own? bench.asked.length seed⟩,
    { bench with asked := bench.asked ++ [seed] })

/-- The shared pipeline, built on first use. -/
def sharedStation (bench : Workbench σ) : Station σ × Workbench σ :=
  match bench.shared with
  | some station => (station, bench)
  | none =>
    let (station, bench) := bench.build none none
    (station, { bench with shared := some station })

/-- Runs a play at a station, on the source it keeps or else on the common one. -/
def playAt {α : Type} (bench : Workbench σ) (station : Station σ) (play : Play σ α) :
    Played σ α × Station σ × Workbench σ :=
  match station.own with
  | some source =>
    let played := play.run source
    (played, { station with own := some played.source }, bench)
  | none =>
    let played := play.run bench.supply.source
    (played, station, { bench with supply := bench.supply.put played.source })

/-- Runs a play on the shared pipeline. -/
def playShared {α : Type} (bench : Workbench σ) (play : Pipeline → Play σ α) :
    Played σ α × Workbench σ :=
  let (station, bench) := bench.sharedStation
  let (played, station, bench) := bench.playAt station (play station.pipeline)
  (played, { bench with shared := some station })

/-- What can be done at a workbench. -/
inductive Step where
  | enter (on : Option Text) (entry : Entry)
  | set (change : Settings.Change)
  | reset
  | askTwice
  | build (as : Text) (seed : Option Int) (registry : Option Registry)

/-- What comes of a step. -/
inductive Reply (σ : Type) where
  | played (p : Played σ Answer)
  | done
  | sameTwice (same : Bool)
  | built (nameWidthFloor : Int) (label : Text)

/-- Asking for the shared pipeline twice builds one at most. -/
def askTwice (bench : Workbench σ) : Bool × Workbench σ :=
  let (_, once) := bench.sharedStation
  let (_, twice) := once.sharedStation
  (once.asked.length == twice.asked.length, twice)

/-- One step. A call on a name that was never built does nothing. -/
def step [RandomSource σ] (bench : Workbench σ) : Step → Reply σ × Workbench σ
  | .enter none entry =>
    let (played, bench) := bench.playShared (·.enter entry)
    (.played played, bench)
  | .enter (some name) entry =>
    match bench.named.lookup name with
    | none => (.done, bench)
    | some station =>
      let (played, station, bench) := bench.playAt station (station.pipeline.enter entry)
      (.played played, { bench with named := Keyed.put name station bench.named })
  | .set change => (.done, { bench with settings := bench.settings.change change })
  | .reset => (.done, { bench with shared := none })
  | .askTwice =>
    let (same, bench) := bench.askTwice
    (.sameTwice same, bench)
  | .build name seed registry =>
    let (station, bench) := bench.build registry seed
    (.built station.pipeline.nameWidthFloor station.pipeline.label,
      { bench with named := Keyed.put name station bench.named })

/-- Steps one after the other, with what comes of each. -/
def run [RandomSource σ] (bench : Workbench σ) : List Step → List (Reply σ) × Workbench σ
  | [] => ([], bench)
  | step :: rest =>
    let (reply, next) := bench.step step
    let (replies, last) := next.run rest
    (reply :: replies, last)

end Workbench

end InlineDice
