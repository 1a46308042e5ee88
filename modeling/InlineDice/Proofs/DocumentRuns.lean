import InlineDice.Proofs.DocumentPieces
import InlineDice.Proofs.PipelineRolls

namespace InlineDice

open Notation Text

theorem Notation.isDiceLine_eq_false_of_isBlank {s : Text} (blank : s.isBlank = true) :
    isDiceLine s = false := by
  rw [Text.isBlank, List.all_eq_true] at blank
  have separators : ∀ c ∈ s, isSeparator c = true := fun c member =>
    isSeparator_of_isBlank (blank c member)
  have none : tokenize s = [] := by
    rw [← List.nil_append s, tokenize_append_right separators, tokenize_nil]
  rw [Bool.eq_false_iff]
  exact fun dice => tokenize_ne_nil_of_isDiceLine dice none

/-- An expanded document from its pieces and from what replaces some of them. -/
def Expanded.ofPieces (pieces : List Text) (reports : List (Option Text)) : Expanded :=
  ⟨['\n'].intercalate (List.zipWith (fun piece report => report.getD piece) pieces reports),
    (reports.filter Option.isSome).length⟩

theorem Expanded.ofPieces_cons {pieces : List Text} {reports : List (Option Text)}
    (some : pieces ≠ []) (length : reports.length = pieces.length) (piece : Text)
    (report : Option Text) :
    Expanded.ofPieces (piece :: pieces) (report :: reports) =
      Pipeline.withLine (piece ++ ['\n']) (report.map (· ++ ['\n'])) (.ofPieces pieces reports) := by
  obtain ⟨next, pieces, rfl⟩ := List.exists_cons_of_ne_nil some
  cases reports with
  | nil => contradiction
  | cons nextReport reports =>
    cases report <;> simp [Expanded.ofPieces, Pipeline.withLine]

namespace Pipeline

variable {σ : Type} [RandomSource σ] {p : Pipeline} {strict : Bool} {piece : Text}

/-- A line feed after a line comes back after what replaces it. -/
theorem expandLine_append_lineFeed (line : Text) :
    (p.expandLine strict (line ++ ['\n']) : Play σ (Option Text)) =
      Option.map (· ++ ['\n']) <$> p.expandLine strict line := by
  unfold expandLine
  rw [lineContent_append_lineFeed, lineEnding_append_lineFeed]
  dsimp only
  split
  · rfl
  · simp only [← comp_map, Function.comp_def, Option.map_map, List.append_assoc]

theorem replaceLine_dice {line : Text} (dice : isDiceLine line = true) :
    (p.replaceLine strict line : Play σ (Option Text)) = some <$> p.roll line := by
  unfold replaceLine
  rw [transform_of_isDiceLine dice]
  simp only [bind_map_left]
  exact (map_eq_pure_bind some (p.roll line)).symm

theorem replaceLine_other {line : Text} (other : isDiceLine line = false) :
    (p.replaceLine strict line : Play σ (Option Text)) =
      if strict then .fail (.malformedLine line) else pure none := by
  unfold replaceLine
  rw [transform_of_not_isDiceLine other]
  simp only [pure_bind]

theorem expandLine_dice (whole : '\n' ∉ piece) (dice : isDiceLine (pieceBody piece) = true) :
    (p.expandLine strict piece : Play σ (Option Text)) =
      (fun report => some (report.dropLast ++ pieceEnding piece)) <$> p.roll (pieceBody piece) := by
  have marked : (pieceBody piece).isBlank = false := by
    by_contra blank
    rw [isDiceLine_eq_false_of_isBlank (by simpa using blank)] at dice
    contradiction
  unfold expandLine
  rw [lineContent_of_piece whole, lineEnding_of_piece whole]
  dsimp only
  rw [marked, replaceLine_dice dice]
  simp

theorem expandLine_other (whole : '\n' ∉ piece) (other : isDiceLine (pieceBody piece) = false) :
    (p.expandLine strict piece : Play σ (Option Text)) =
      if strict && !(pieceBody piece).isBlank then .fail (.malformedLine (pieceBody piece))
      else pure none := by
  unfold expandLine
  rw [lineContent_of_piece whole, lineEnding_of_piece whole]
  dsimp only
  rw [replaceLine_other other]
  cases strict <;> cases (pieceBody piece).isBlank <;> rfl

/-- Expanding line by line is expanding the pieces between the line feeds. -/
theorem expandLines_lines (p : Pipeline) (strict : Bool) (text : Text) :
    (p.expandLines strict (lines text) : Play σ Expanded) =
      Expanded.ofPieces (text.splitOn '\n') <$> (text.splitOn '\n').mapM (p.expandLine strict) := by
  induction text using piece_induction with
  | last piece whole =>
    rw [List.splitOn_eq_singleton whole]
    by_cases empty : piece = []
    · subst empty
      cases strict <;> rfl
    · have alone : ∀ report, withLine piece report ⟨[], 0⟩ = .ofPieces [piece] [report] := by
        intro report
        cases report <;> simp [withLine, Expanded.ofPieces]
      rw [lines_of_piece whole empty]
      simp [expandLines, alone]
  | line piece rest whole ih =>
    -- The joins agree only for as many reports as there are pieces, which is what a run ends with.
    have joined : ∀ report,
        (Expanded.ofPieces (piece :: rest.splitOn '\n') ∘ (report :: ·)) <$>
            (rest.splitOn '\n').mapM (p.expandLine strict) =
          ((withLine (piece ++ ['\n']) (Option.map (· ++ ['\n']) report) ∘
            Expanded.ofPieces (rest.splitOn '\n')) <$>
              (rest.splitOn '\n').mapM (p.expandLine strict) : Play σ Expanded) := by
      intro report
      refine Play.map_congr_of_run fun _ _ _ _ reports ran => ?_
      have length := (Play.run_mapM_forall₂ ran).length_eq.symm
      exact Expanded.ofPieces_cons (List.splitOn_ne_nil '\n' rest) length piece report
    rw [List.splitOn_append_cons_self_of_not_mem whole, lines_append whole, expandLines, ih,
      expandLine_append_lineFeed, Play.mapM_cons_play]
    simp only [bind_map_left, map_bind, Functor.map_map]
    exact bind_congr fun report => (joined report).symm

section

variable {text : Text} {source rest : σ} {draws : List Draw} {notes : List Note}

theorem expand_of_ok {replacements : List (Option Text)}
    (ran : ((text.splitOn '\n').mapM (p.expandLine strict)).run source =
      ⟨.ok replacements, rest, draws, notes⟩) :
    (p.expand strict text).run source =
      ⟨.ok (.ofPieces (text.splitOn '\n') replacements), rest, draws,
        notes ++ [.expanded (replacements.filter Option.isSome).length]⟩ := by
  have mapped := Play.run_map_of_run (f := Expanded.ofPieces (text.splitOn '\n')) ran
  unfold Pipeline.expand
  rw [expandLines_lines, Play.run_bind_of_run mapped, Play.run_bind_of_run (Play.run_note _ rest)]
  simp [Played.followedBy, Play.run_pure, Expanded.ofPieces]

theorem expand_of_error {fault : Fault}
    (ran : ((text.splitOn '\n').mapM (p.expandLine strict)).run source =
      ⟨.error fault, rest, draws, notes⟩) :
    (p.expand strict text).run source = ⟨.error fault, rest, draws, notes⟩ := by
  have mapped := Play.run_map_of_failed (f := Expanded.ofPieces (text.splitOn '\n')) ran
  unfold Pipeline.expand
  rw [expandLines_lines, Play.run_bind_of_error (by rw [mapped]), mapped]
  rfl

end

end Pipeline

end InlineDice
