import InlineDice.Workbench

namespace InlineDice

/-- The pipeline that settings ask for, with the built-in processors. -/
def Settings.pipeline (s : Settings) : Pipeline := ⟨.builtin, s.nameWidthFloor, s.aggregateLabel⟩

variable {σ : Type}

/-- The source that a new pipeline draws from first: its own, or the common one as it stands. -/
def Supply.given (supply : Supply σ) (askedBefore : Nat) (seed : Option Int) : σ :=
  (supply.own? askedBefore seed).getD supply.source

/-- Calls one after the other on one pipeline and one source. A call that fails ends only itself. -/
def Pipeline.enterAll [RandomSource σ] (p : Pipeline) : List Entry → σ → List (Played σ Answer)
  | [], _ => []
  | entry :: rest, source =>
    let played := (p.enter entry).run source
    played :: p.enterAll rest played.source

namespace Workbench

def Step.settle (s : Settings) : Step → Settings
  | .set change => s.change change
  | _ => s

/-- What a host does with the shared pipeline between two resets. -/
inductive Turn where
  | call (entry : Entry)
  | change (c : Settings.Change)

namespace Turn

def step : Turn → Step
  | call entry => .enter none entry
  | change c => .set c

def entry? : Turn → Option Entry
  | call entry => some entry
  | change _ => none

end Turn

def Reply.played? : Reply σ → Option (Played σ Answer)
  | .played p => some p
  | _ => none

/-- What a pipeline draws from next, given the source it keeps for itself. -/
def DrawsFrom (bench : Workbench σ) (own : Option σ) (source : σ) : Prop :=
  own = some source ∨ own = none ∧ bench.supply = .common source

/-- The shared pipeline exists, and what it draws from next is `source`. -/
def Serves (bench : Workbench σ) (p : Pipeline) (source : σ) : Prop :=
  ∃ own, bench.shared = some ⟨p, own⟩ ∧ bench.DrawsFrom own source

/-- The shared pipeline, which exists or is built when it is asked for, is `p`, and what it draws from
next is `source`. -/
def Offers (bench : Workbench σ) (p : Pipeline) (source : σ) : Prop :=
  ∃ own ready, bench.sharedStation = (⟨p, own⟩, ready) ∧ ready.DrawsFrom own source

variable {bench : Workbench σ} {p : Pipeline} {source : σ}

theorem settings_sharedStation (bench : Workbench σ) :
    bench.sharedStation.2.settings = bench.settings := by
  unfold sharedStation
  split <;> rfl

theorem settings_playAt {α : Type} (bench : Workbench σ) (station : Station σ)
    (play : Play σ α) : (bench.playAt station play).2.2.settings = bench.settings := by
  unfold playAt
  split <;> rfl

/-- A play at a station runs from the source that the station draws from, and leaves it where the
run does. -/
theorem playAt_of_drawsFrom {α : Type} {own : Option σ} (draws : bench.DrawsFrom own source)
    (play : Play σ α) :
    ∃ left after, bench.playAt ⟨p, own⟩ play = (play.run source, ⟨p, left⟩, after) ∧
      after.DrawsFrom left (play.run source).source ∧ after.asked = bench.asked := by
  rcases draws with rfl | ⟨rfl, common⟩
  · exact ⟨_, bench, rfl, .inl rfl, rfl⟩
  · refine ⟨none, { bench with supply := .common (play.run source).source }, ?_, .inr ⟨rfl, rfl⟩, rfl⟩
    simp only [playAt, common, Supply.source, Supply.put]

theorem drawsFrom_given (supply : Supply σ) (askedBefore : Nat) (seed : Option Int)
    (given : bench.supply = supply) :
    bench.DrawsFrom (supply.own? askedBefore seed) (supply.given askedBefore seed) := by
  cases supply with
  | common source => exact .inr ⟨rfl, given⟩
  | fresh seeded unseeded => exact .inl rfl

theorem sharedStation_of_some {own : Option σ} (shared : bench.shared = some ⟨p, own⟩) :
    bench.sharedStation = (⟨p, own⟩, bench) := by
  simp only [sharedStation, shared]

/-- Where there is no shared pipeline yet, one is built by the settings in force, and one source is
asked for. -/
theorem sharedStation_of_absent (absent : bench.shared = none) :
    ∃ own ready, bench.sharedStation = (⟨bench.settings.pipeline, own⟩, ready) ∧
      ready.DrawsFrom own (bench.supply.given bench.asked.length bench.settings.rngSeed) ∧
      ready.asked = bench.asked ++ [bench.settings.rngSeed] := by
  refine ⟨bench.supply.own? bench.asked.length bench.settings.rngSeed, { bench with
    asked := bench.asked ++ [bench.settings.rngSeed]
    shared := some ⟨bench.settings.pipeline,
      bench.supply.own? bench.asked.length bench.settings.rngSeed⟩ }, ?_,
    drawsFrom_given _ _ _ rfl, rfl⟩
  unfold sharedStation
  rw [absent]
  rfl

theorem playShared_of_sharedStation {α : Type} {ready : Workbench σ} {own : Option σ}
    (atHand : bench.sharedStation = (⟨p, own⟩, ready)) (draws : ready.DrawsFrom own source)
    (play : Pipeline → Play σ α) :
    ∃ after, bench.playShared play = ((play p).run source, after) ∧
      after.Serves p ((play p).run source).source ∧ after.asked = ready.asked := by
  obtain ⟨left, after, played, drawsLater, asked⟩ := playAt_of_drawsFrom (p := p) draws (play p)
  refine ⟨{ after with shared := some ⟨p, left⟩ }, ?_, ⟨left, rfl, drawsLater⟩, asked⟩
  simp only [playShared, atHand, played]

theorem Serves.offers (serves : bench.Serves p source) : bench.Offers p source := by
  obtain ⟨own, shared, draws⟩ := serves
  exact ⟨own, bench, sharedStation_of_some shared, draws⟩

theorem settings_playShared {α : Type} (bench : Workbench σ) (play : Pipeline → Play σ α) :
    (bench.playShared play).2.settings = bench.settings :=
  (settings_playAt _ _ _).trans (settings_sharedStation bench)

variable [RandomSource σ]

theorem run_append (bench : Workbench σ) (steps more : List Step) :
    bench.run (steps ++ more) =
      ((bench.run steps).1 ++ ((bench.run steps).2.run more).1, ((bench.run steps).2.run more).2) := by
  induction steps generalizing bench with
  | nil => rfl
  | cons step steps ih => simp [run, ih]

theorem run_cons_of_step {step : Step} {reply : Reply σ} {after : Workbench σ}
    (stepped : bench.step step = (reply, after)) (steps : List Step) :
    bench.run (step :: steps) = (reply :: (after.run steps).1, (after.run steps).2) := by
  simp only [run, stepped]

theorem settings_step (bench : Workbench σ) (step : Step) :
    (bench.step step).2.settings = step.settle bench.settings := by
  cases step with
  | enter on entry =>
    cases on with
    | none => exact settings_playShared bench (·.enter entry)
    | some name =>
      simp only [Workbench.step]
      split
      · rfl
      · exact settings_playAt _ _ _
  | askTwice => exact (settings_sharedStation _).trans (settings_sharedStation bench)
  | set => rfl
  | reset => rfl
  | build => rfl

theorem settings_run (bench : Workbench σ) (steps : List Step) :
    (bench.run steps).2.settings = steps.foldl Step.settle bench.settings := by
  induction steps generalizing bench with
  | nil => rfl
  | cons step steps ih =>
    rw [List.foldl_cons, ← settings_step]
    exact ih _

/-- A call on the shared pipeline, once it is at hand, is a call on that pipeline and its source. -/
theorem step_call_of_sharedStation {ready : Workbench σ} {own : Option σ}
    (atHand : bench.sharedStation = (⟨p, own⟩, ready)) (draws : ready.DrawsFrom own source)
    (entry : Entry) :
    ∃ after, bench.step (.enter none entry) = (.played ((p.enter entry).run source), after) ∧
      after.Serves p ((p.enter entry).run source).source ∧ after.asked = ready.asked := by
  obtain ⟨after, played, serves, asked⟩ :=
    playShared_of_sharedStation atHand draws fun p => p.enter entry
  exact ⟨after, by simp only [Workbench.step, played], serves, asked⟩

theorem step_call_of_serves (serves : bench.Serves p source) (entry : Entry) :
    ∃ after, bench.step (.enter none entry) = (.played ((p.enter entry).run source), after) ∧
      after.Serves p ((p.enter entry).run source).source ∧ after.asked = bench.asked := by
  obtain ⟨own, shared, draws⟩ := serves
  exact step_call_of_sharedStation (sharedStation_of_some shared) draws entry

/-- The first call builds the pipeline by the settings in force, and asks for one source. -/
theorem step_call_of_absent (absent : bench.shared = none) (entry : Entry) :
    ∃ after, bench.step (.enter none entry) =
        (.played ((bench.settings.pipeline.enter entry).run
          (bench.supply.given bench.asked.length bench.settings.rngSeed)), after) ∧
      after.Serves bench.settings.pipeline ((bench.settings.pipeline.enter entry).run
        (bench.supply.given bench.asked.length bench.settings.rngSeed)).source ∧
      after.asked = bench.asked ++ [bench.settings.rngSeed] := by
  obtain ⟨own, ready, atHand, draws, asked⟩ := sharedStation_of_absent absent
  rw [← asked]
  exact step_call_of_sharedStation atHand draws entry

/-- Between resets the shared pipeline stays what it is: calls go to it one after the other, those
that fail included, and changes of settings pass it by. -/
theorem run_turns_of_serves (serves : bench.Serves p source) (turns : List Turn) :
    (bench.run (turns.map Turn.step)).1.filterMap Reply.played? =
        p.enterAll (turns.filterMap Turn.entry?) source ∧
      (bench.run (turns.map Turn.step)).2.asked = bench.asked ∧
      ∃ left, (bench.run (turns.map Turn.step)).2.Serves p left := by
  -- The pipeline stays fixed in the induction, only its source and the settings move on.
  induction turns generalizing bench source with
  | nil => exact ⟨rfl, rfl, source, serves⟩
  | cons turn turns ih =>
    cases turn with
    | call entry =>
      obtain ⟨after, stepped, later, asked⟩ := step_call_of_serves serves entry
      obtain ⟨replies, same, last⟩ := ih later
      have ran := run_cons_of_step stepped (turns.map Turn.step)
      rw [List.map_cons, Turn.step, ran]
      refine ⟨?_, same.trans asked, last⟩
      simp only [List.filterMap_cons, Reply.played?, Turn.entry?, Pipeline.enterAll, replies]
    | change c =>
      have unmoved : Serves { bench with settings := bench.settings.change c } p source := serves
      exact ih unmoved

theorem run_changes (bench : Workbench σ) (changes : List Settings.Change) :
    (bench.run (changes.map .set)).1.filterMap Reply.played? = [] ∧
      (bench.run (changes.map .set)).2 =
        { bench with settings := changes.foldl Settings.change bench.settings } := by
  induction changes generalizing bench with
  | nil => exact ⟨rfl, rfl⟩
  | cons change changes ih => exact ih { bench with settings := bench.settings.change change }

/-- A reset leaves no shared pipeline behind, and at first there is none. -/
theorem shared_of_fresh {before : List Step} {settings : Settings} {supply : Supply σ}
    (fresh : before = [] ∨ ∃ earlier, before = earlier ++ [.reset]) :
    ((new settings supply).run before).2.shared = none := by
  rcases fresh with rfl | ⟨earlier, rfl⟩
  · rfl
  · rw [run_append]
    rfl

/-- Between resets there is one shared pipeline, as if the first call had built it and made it the
only one: no change of settings before that call builds one, that call asks for one source with the
seed then in force, and all calls end as they do one after the other on the pipeline of the settings
then in force, drawing from that source. Later changes of settings and calls that fail leave it what it
is. -/
theorem shared_pipeline_frozen_at_first_call (settings : Settings) (supply : Supply σ)
    {before : List Step} (fresh : before = [] ∨ ∃ earlier, before = earlier ++ [.reset])
    (changes : List Settings.Change) :
    let start := ((new settings supply).run before).2
    let inForce := (before ++ changes.map Step.set).foldl Step.settle settings
    ((start.run (changes.map .set)).2.asked = start.asked ∧
      (start.run (changes.map .set)).2.shared = none) ∧
    ∀ (entry : Entry) (turns : List Turn),
      let stretch := changes.map .set ++ .enter none entry :: turns.map Turn.step
      (start.run stretch).2.asked = start.asked ++ [inForce.rngSeed] ∧
      (start.run stretch).1.filterMap Reply.played? =
        inForce.pipeline.enterAll (entry :: turns.filterMap Turn.entry?)
          (start.supply.given start.asked.length inForce.rngSeed) ∧
      ∃ station, (start.run stretch).2.shared = some station ∧
        station.pipeline = inForce.pipeline := by
  intro start inForce
  -- The changes before the first call only move the settings, so it builds by those in force there.
  have absent : start.shared = none := shared_of_fresh fresh
  obtain ⟨quiet, changed⟩ := run_changes start changes
  have settle : changes.foldl Settings.change start.settings = inForce := by
    simp only [start, inForce, settings_run, new, List.foldl_append, List.foldl_map, Step.settle]
  rw [settle] at changed
  refine ⟨by rw [changed]; exact ⟨rfl, absent⟩, ?_⟩
  intro entry turns stretch
  have waiting : shared { start with settings := inForce } = none := absent
  obtain ⟨after, stepped, serves, asked⟩ := step_call_of_absent waiting entry
  obtain ⟨replies, same, left, own, shared, -⟩ := run_turns_of_serves serves turns
  have ran := run_cons_of_step stepped (turns.map Turn.step)
  -- What is left of the stretch goes to the pipeline that the call has left behind.
  simp only [stretch, run_append, changed, ran]
  refine ⟨same.trans asked, ?_, ⟨_, own⟩, shared, rfl⟩
  rw [List.filterMap_append, quiet]
  simp only [List.nil_append, List.filterMap_cons, Reply.played?, Pipeline.enterAll, replies]

/-- Sources that repeat the seed they are made with, or else how many sources there were before. -/
def echoes : Supply Script :=
  .fresh (fun seed => .cycle [seed] []) fun askedBefore => .cycle [(askedBefore : Int)] []

def reseed (seed : Int) : Settings.Change :=
  ⟨none, none, none, none, none, some (some seed), none, none⟩

theorem shared_pipeline_frozen_at_first_call_reseeded :
    let start := ((new .default echoes).run [.enter none (.roll "d6".toList), .reset]).2
    let stretch : List Step := [.set (reseed 5), .enter none (.roll "d0".toList),
      .set (reseed 2), .enter none (.roll "d6".toList)]
    (start.run stretch).2.asked = [none, some 5] ∧
      ((start.run stretch).1.filterMap Reply.played?).map (fun played => played.outcome.toOption) =
        [none, some (.text (some "Roll:\n- 1d6 :: [ 5 ]\n".toList))] := by
  obtain ⟨-, calls⟩ := shared_pipeline_frozen_at_first_call .default echoes
    (.inr ⟨[.enter none (.roll "d6".toList)], rfl⟩) [reseed 5]
  obtain ⟨asked, replies, -⟩ := calls (.roll "d0".toList)
    [.change (reseed 2), .call (.roll "d6".toList)]
  have outcomes := congrArg (List.map fun played => played.outcome.toOption) replies
  exact ⟨asked, outcomes.trans (by decide +kernel)⟩

end Workbench

end InlineDice
