import InlineDice.Fault
import InlineDice.Random.Source

namespace InlineDice

/-- One request to a random source, for an integer from `low` to `high`. -/
structure Draw where
  low : Int
  high : Int
  deriving DecidableEq, Repr

/-- What a run reports on the side, for whoever follows the details. -/
inductive Note where
  | rolled (instructions : Nat) (plural : Bool)
  | expanded (lines : Nat)
  deriving DecidableEq, Repr

/-- What a run on a random source leaves behind. The source, the draws and the notes are there
whether the run succeeded or not. -/
structure Played (σ α : Type) where
  outcome : Except Fault α
  source : σ
  draws : List Draw
  notes : List Note

/-- A run on a random source. -/
def Play (σ α : Type) : Type := σ → Played σ α

namespace Play

variable {σ α β : Type}

def run (play : Play σ α) (source : σ) : Played σ α := play source

/-- Ends with an outcome, and leaves the source alone. -/
def ofExcept (outcome : Except Fault α) : Play σ α := fun source => ⟨outcome, source, [], []⟩

/-- The second run goes on where the first one left the source; a fault in the first one ends it. -/
def andThen (first : Play σ α) (second : α → Play σ β) : Play σ β := fun source =>
  let before := first source
  match before.outcome with
  | .error fault => ⟨.error fault, before.source, before.draws, before.notes⟩
  | .ok a =>
    let after := second a before.source
    ⟨after.outcome, after.source, before.draws ++ after.draws, before.notes ++ after.notes⟩

/-- Changes the result of a run and nothing else. -/
def map (f : α → β) (play : Play σ α) : Play σ β := fun source =>
  let played := play source
  ⟨played.outcome.map f, played.source, played.draws, played.notes⟩

instance : Monad (Play σ) where
  pure a := ofExcept (.ok a)
  bind := andThen
  map := map

def fail (fault : Fault) : Play σ α := ofExcept (.error fault)

def note (n : Note) : Play σ Unit := fun source => ⟨.ok (), source, [], [n]⟩

/-- One draw. It is made even when the source has run dry. -/
def draw [RandomSource σ] (low high : Int) : Play σ Int := fun source =>
  match RandomSource.draw low high source with
  | (some value, rest) => ⟨.ok value, rest, [⟨low, high⟩], []⟩
  | (none, rest) => ⟨.error .sourceExhausted, rest, [⟨low, high⟩], []⟩

/-- Faults of the dice text become answers; any other fault still ends the run. -/
def handleDice (play : Play σ α) (answer : Fault → α) : Play σ α := fun source =>
  let played := play source
  match played.outcome with
  | .ok _ => played
  | .error fault => if fault.isDice then { played with outcome := .ok (answer fault) } else played

/-- A run on a source with the state of a host beside it, which it leaves alone. -/
def beside {η : Type} (play : Play σ α) : Play (σ × η) α := fun (source, host) =>
  let played := play source
  ⟨played.outcome, (played.source, host), played.draws, played.notes⟩

theorem run_pure (a : α) (source : σ) : (pure a : Play σ α).run source = ⟨.ok a, source, [], []⟩ := rfl

theorem run_bind (first : Play σ α) (second : α → Play σ β) (source : σ) :
    (first >>= second).run source = andThen first second source := rfl

theorem run_map (f : α → β) (play : Play σ α) (source : σ) :
    (f <$> play).run source = map f play source := rfl

/-- To change a result is to go on with a run that returns the changed one. -/
theorem map_eq_bind (f : α → β) (play : Play σ α) :
    f <$> play = play >>= fun a => pure (f a) := by
  funext source
  show map f play source = andThen play (fun a => pure (f a)) source
  simp only [map, andThen]
  cases (play source).outcome with
  | error fault => rfl
  | ok a => simp [Except.map, pure, ofExcept]

theorem id_map_play (play : Play σ α) : id <$> play = play := by
  funext source
  show map id play source = play source
  unfold map
  rcases play source with ⟨outcome, rest, draws, notes⟩
  cases outcome <;> rfl

theorem pure_bind_play (a : α) (next : α → Play σ β) : pure a >>= next = next a := rfl

/-- Three runs in a row leave the same behind however they are joined. -/
theorem bind_assoc_play {γ : Type} (first : Play σ α) (second : α → Play σ β)
    (third : β → Play σ γ) :
    first >>= second >>= third = first >>= fun a => second a >>= third := by
  funext source
  show andThen (andThen first second) third source =
    andThen first (fun a => andThen (second a) third) source
  simp only [andThen]
  rcases first source with ⟨outcome, rest, draws, notes⟩
  cases outcome with
  | error fault => rfl
  | ok a =>
    rcases middle : second a rest with ⟨outcome, left, more, further⟩
    cases outcome <;> simp [middle, List.append_assoc]

instance : LawfulMonad (Play σ) :=
  .mk' (Play σ) id_map_play pure_bind_play bind_assoc_play (fun _ _ => rfl) (fun _ _ => rfl)
    (fun _ _ => rfl) (fun f play => (map_eq_bind f play).symm) (fun _ _ => rfl)

end Play

/-- Rolls dice of the given faces one after the other. -/
def rollDice {σ : Type} [RandomSource σ] (faces : Int) : Nat → Play σ (List Int)
  | 0 => pure []
  | n + 1 => do
    let value ← Play.draw 1 faces
    (value :: ·) <$> rollDice faces n

/-- Rolls `count` dice, at least one, of `faces` faces, at least one. -/
def roll {σ : Type} [RandomSource σ] (count faces : Int) : Play σ (List Int) :=
  if count < 1 then .fail (.countBelowOne count)
  else if faces < 1 then .fail (.facesBelowOne faces)
  else rollDice faces count.toNat

end InlineDice
