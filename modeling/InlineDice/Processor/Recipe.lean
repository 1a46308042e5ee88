import InlineDice.Processor.Basic

namespace InlineDice

/-- How a processor arranges the rolls it shows. -/
inductive Arrangement where
  | same
  | reverse
  | distinct
  | empty
  | first
  | double
  deriving DecidableEq, Repr

namespace Arrangement

/-- The first occurrence of each value, in order. -/
def firstOccurrences : List Int → List Int
  | [] => []
  | x :: rest => x :: (firstOccurrences rest).filter (· ≠ x)

def apply : Arrangement → List Int → List Int
  | same, rolls => rolls
  | reverse, rolls => rolls.reverse
  | distinct, rolls => firstOccurrences rolls
  | empty, _ => []
  | first, rolls => rolls.take 1
  | double, rolls => rolls ++ rolls

end Arrangement

/-- How a processor computes its aggregate from the rolls it shows. -/
inductive Tally where
  | none
  | sum
  | length
  | zero
  | maximum
  | minimum
  | product
  | negatedSum
  deriving DecidableEq, Repr

/-- There is no largest and no smallest of no rolls. -/
def Tally.apply : Tally → List Int → Option Int
  | none, _ => .none
  | sum, rolls => some (rolls.foldl (· + ·) 0)
  | length, rolls => some rolls.length
  | zero, _ => some 0
  | maximum, rolls => rolls.max?
  | minimum, rolls => rolls.min?
  | product, rolls => some (rolls.foldl (· * ·) 1)
  | negatedSum, rolls => some (-rolls.foldl (· + ·) 0)

/-- A processor put together from an arrangement and a tally. A greedy one takes all rolls out of the
list it works on once it has its answer. -/
structure Recipe where
  arrangement : Arrangement
  tally : Tally
  greedy : Bool
  deriving DecidableEq, Repr

def Recipe.answer (recipe : Recipe) (rolls : List Int) : ProcessedRolls :=
  let arranged := recipe.arrangement.apply rolls
  ⟨arranged, recipe.tally.apply arranged⟩

def Recipe.processor (recipe : Recipe) (parameters : Option Parameters) (doc : Option Text) :
    Processor :=
  ⟨parameters, doc, fun rolls =>
    .ok ⟨recipe.answer rolls, if recipe.greedy then [] else rolls⟩⟩

end InlineDice
