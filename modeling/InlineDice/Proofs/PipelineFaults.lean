import InlineDice.Proofs.PlayRuns
import InlineDice.Workbench

namespace InlineDice.Pipeline

section

variable {σ : Type} [RandomSource σ] {p : Pipeline} {faults : Fault → Prop}
  (rolls : ∀ text, (p.roll text : Play σ Text).FailsIn faults)

include rolls

theorem transform_failsIn (span : Text) :
    (p.transform span : Play σ (Option Text)).FailsIn faults := by
  unfold transform
  split
  · exact .pure none
  · exact (rolls _).map

variable (unmatched : ∀ line, faults (.malformedLine line))

include unmatched

theorem replaceLine_failsIn (strict : Bool) (line : Text) :
    (p.replaceLine strict line : Play σ (Option Text)).FailsIn faults := by
  refine (transform_failsIn rolls line).bind fun report => ?_
  cases report with
  | some report => exact .pure _
  | none =>
    cases strict with
    | true => exact .fail (unmatched line)
    | false => exact .pure none

theorem expandLine_failsIn (strict : Bool) (line : Text) :
    (p.expandLine strict line : Play σ (Option Text)).FailsIn faults := by
  unfold expandLine
  dsimp only
  split
  · exact .pure none
  · exact (replaceLine_failsIn rolls unmatched strict _).map

theorem expandLines_failsIn (strict : Bool) (lines : List Text) :
    (p.expandLines strict lines : Play σ Expanded).FailsIn faults := by
  induction lines with
  | nil => exact .pure _
  | cons line lines ih =>
    exact (expandLine_failsIn rolls unmatched strict line).bind fun report => ih.map

theorem expand_failsIn (strict : Bool) (text : Text) :
    (p.expand strict text : Play σ Expanded).FailsIn faults := by
  refine (expandLines_failsIn rolls unmatched strict _).bind fun expanded => ?_
  exact (Play.FailsIn.note _).bind fun _ => .pure expanded

/-- Whatever way a text takes into a pipeline, it fails as a roll does or as a line without dice. -/
theorem enter_failsIn (entry : Entry) : (p.enter entry : Play σ Answer).FailsIn faults := by
  cases entry with
  | recognize text => exact .pure _
  | roll text => exact (rolls text).bind fun report => .pure _
  | transform text => exact (transform_failsIn rolls text).bind fun report => .pure _
  | replaceLine strict text =>
    exact (replaceLine_failsIn rolls unmatched strict text).bind fun report => .pure _
  | expand strict text =>
    exact (expand_failsIn rolls unmatched strict text).bind fun document => .pure _

end

end InlineDice.Pipeline
