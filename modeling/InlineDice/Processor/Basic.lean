import InlineDice.Fault

namespace InlineDice

/-- Rolls as a report shows them, with an aggregate if one was computed. -/
structure ProcessedRolls where
  rolls : List Int
  aggregate : Option Int
  deriving DecidableEq, Repr

/-- What a processor takes: how many values by position it needs and may have besides, whether it
takes any number of further ones, and how many values by name it cannot do without. -/
structure Parameters where
  required : Nat
  optional : Nat
  anyNumber : Bool
  requiredNames : Nat
  deriving DecidableEq, Repr

/-- It can be called with one value by position and nothing else. -/
def Parameters.acceptOne (p : Parameters) : Bool :=
  p.required ≤ 1 && p.requiredNames = 0 && (1 ≤ p.required + p.optional || p.anyNumber)

/-- What a call of a processor ends with: its answer, and what it has made of the list of rolls that
it was given to work on. -/
structure Reply where
  answer : ProcessedRolls
  worked : List Int
  deriving DecidableEq, Repr

/-- A transformation of rolls, which a host may bring along. Its parameters may be hidden from
inspection, and a call may end in any fault, also in one of the dice text. -/
structure Processor where
  parameters : Option Parameters
  doc : Option Text
  call : List Int → Except Fault Reply

namespace Processor

/-- A processor that takes rolls and always answers. -/
def ofFunction (doc : String) (f : List Int → ProcessedRolls) : Processor :=
  ⟨some ⟨1, 0, false, 0⟩, some doc.toList, fun rolls => .ok ⟨f rolls, rolls⟩⟩

def ascending : Processor :=
  ofFunction "Sort rolls from lowest to highest." fun rolls => ⟨rolls.mergeSort (· ≤ ·), none⟩

def descending : Processor :=
  ofFunction "Sort rolls from highest to lowest." fun rolls => ⟨rolls.mergeSort (· ≥ ·), none⟩

def total : Processor :=
  ofFunction "Keep rolls in order and add up their sum." fun rolls =>
    ⟨rolls, some (rolls.foldl (· + ·) 0)⟩

end Processor

/-- What a host offers as a processor: one, or a value that cannot be called at all. -/
inductive Offer where
  | inert
  | processor (p : Processor)

end InlineDice
