import InlineDice.Proofs.DocumentRewriting
import InlineDice.Proofs.FaultMessages
import InlineDice.Proofs.PipelineFaults
import InlineDice.Proofs.TokenLimits

namespace InlineDice

open Notation Text

/-- A fault of the dice text shows on one line. -/
def Fault.IsOneLine (fault : Fault) : Prop := fault.isDice = true → '\n' ∉ fault.message

namespace Pipeline

variable {σ : Type} [RandomSource σ] {p : Pipeline} {strict : Bool} {text body : Text} {fault : Fault}

/-- A text is too much to be rolled, in a way that hosts do not expect: its first token that cannot be
read is overlong, or all can be read and the floor of the column is no width that can be asked for. -/
def Overreaches (p : Pipeline) (text : Text) : Prop :=
  IsOverlongFirst p.registry.contains text ∨
    p.IsTooWide ∧ tokenize text ≠ [] ∧ ∀ t ∈ tokenize text, IsReadable p.registry.contains t

theorem roll_failsIn_oneLine (apart : p.registry.FailsApart) (text : Text) :
    (p.roll text : Play σ Text).FailsIn Fault.IsOneLine := fun _ _ ran dice =>
  Fault.lineFeed_not_mem_of_tokens (tokens_of_isDice apart dice ran) dice

theorem expand_failsIn_oneLine (apart : p.registry.FailsApart) (strict : Bool) (text : Text) :
    (p.expand strict text : Play σ Expanded).FailsIn Fault.IsOneLine :=
  expand_failsIn (roll_failsIn_oneLine apart) (fun line _ => Fault.lineFeed_not_mem_of_malformedLine line)
    strict text

/-! ## Documents -/

theorem Stops.unique {own more : List Draw} {other : Fault}
    (stops : p.Stops strict body fault own) (again : p.Stops strict body other more) :
    fault = other := by
  cases stops with
  | unread dice unread =>
    cases again with
    | unread _ same => exact Except.error.inj (unread.symm.trans same)
    | unmatched _ none => simp [none] at dice
    | unwritten _ read =>
      rw [unread] at read
      cases read
  | unmatched _ none =>
    cases again with
    | unread dice => simp [none] at dice
    | unmatched => rfl
    | unwritten dice => simp [none] at dice
  | unwritten dice read wide =>
    cases again with
    | unread _ unread =>
      rw [read] at unread
      cases unread
    | unmatched _ none => simp [none] at dice
    | unwritten => rfl

/-- The first piece of a document that stops it does so by this fault. -/
def StopsFirst (p : Pipeline) (strict : Bool) (text : Text) (fault : Fault) : Prop :=
  ∃ before piece after own, text.splitOn '\n' = before ++ piece :: after ∧
    (∀ earlier ∈ before, ∀ fault draws, ¬p.Stops strict (pieceBody earlier) fault draws) ∧
    p.Stops strict (pieceBody piece) fault own

theorem StopsFirst.unique {other : Fault} (first : p.StopsFirst strict text fault)
    (again : p.StopsFirst strict text other) : fault = other := by
  obtain ⟨before, piece, after, own, split, fine, stops⟩ := first
  obtain ⟨others, line, later, more, same, free, halts⟩ := again
  rw [split] at same
  -- The list that is longer up to its stop would have the other stop before its own.
  rcases List.append_eq_append_iff.mp same with ⟨_ | ⟨q, between⟩, rfl, rest⟩ |
    ⟨_ | ⟨q, between⟩, rfl, rest⟩
  · cases rest
    exact stops.unique halts
  · cases rest
    exact absurd stops (free piece (by simp) _ _)
  · cases rest
    exact stops.unique halts
  · cases rest
    exact absurd halts (fine line (by simp) _ _)

/-- A document has a piece that is too much before any other one stops it. -/
def OverreachesIn (p : Pipeline) (strict : Bool) (text : Text) : Prop :=
  ∃ before piece after, text.splitOn '\n' = before ++ piece :: after ∧
    (∀ earlier ∈ before, ∀ fault draws, ¬p.Stops strict (pieceBody earlier) fault draws) ∧
    (recognize (pieceBody piece)).isSome = true ∧ p.Overreaches (pieceBody piece)

end Pipeline

end InlineDice
