namespace InlineDice

/-- A source of random integers. Asked for one between two bounds, both included, it answers or has
run dry, and either way moves on. -/
class RandomSource (σ : Type) where
  draw : (low high : Int) → σ → Option Int × σ

/-- A source whose answers always come and always lie between the bounds. -/
def RandomSource.Honest (σ : Type) [RandomSource σ] : Prop :=
  ∀ (low high : Int) (source : σ), low ≤ high →
    ∃ value, (draw low high source).1 = some value ∧ low ≤ value ∧ value ≤ high

/-- Answers fixed beforehand, given in order whatever the bounds. -/
inductive Script where
  /-- Runs dry after its last answer. -/
  | once (left : List Int)
  /-- Starts again after its last answer. -/
  | cycle (answers left : List Int)
  deriving DecidableEq, Repr

def Script.next : Script → Option Int × Script
  | once [] => (none, once [])
  | once (value :: left) => (some value, once left)
  | cycle answers (value :: left) => (some value, cycle answers left)
  | cycle [] [] => (none, cycle [] [])
  | cycle (value :: answers) [] => (some value, cycle (value :: answers) answers)

instance : RandomSource Script where
  draw _ _ script := script.next

end InlineDice
