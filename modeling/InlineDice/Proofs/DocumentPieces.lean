import InlineDice.Proofs.TrimmedTexts

namespace InlineDice.Text

/-- What stands between two line feeds of a document, without the carriage returns at its end. -/
def pieceBody (piece : Text) : Text := trimEnd (· == '\r') piece

/-- The maximal run of carriage returns at the end of a piece. -/
def pieceEnding (piece : Text) : Text := piece.rtakeWhile (· == '\r')

theorem pieceBody_append_pieceEnding (piece : Text) :
    pieceBody piece ++ pieceEnding piece = piece :=
  trimEnd_append_rtakeWhile _ piece

theorem eq_of_mem_pieceEnding {piece : Text} {c : Char} (member : c ∈ pieceEnding piece) :
    c = '\r' := by
  have isReturn := List.mem_rtakeWhile_imp member
  simpa using isReturn

/-- Every document is put together from its last piece and the pieces before it, each of which a
line feed ends. -/
theorem piece_induction {motive : Text → Prop} (last : ∀ piece, '\n' ∉ piece → motive piece)
    (line : ∀ piece rest, '\n' ∉ piece → motive rest → motive (piece ++ '\n' :: rest))
    (s : Text) : motive s := by
  induction length : s.length using Nat.strong_induction_on generalizing s with
  | _ n ih =>
    subst length
    by_cases broken : '\n' ∈ s
    · obtain ⟨piece, rest, rfl, first⟩ := List.eq_append_cons_of_mem broken
      have shorter : rest.length < (piece ++ '\n' :: rest).length := by
        rw [List.length_append, List.length_cons]
        omega
      exact line piece rest first (ih _ shorter rest rfl)
    · exact last s broken

theorem lineFeed_not_mem_of_mem_splitOn {text : Text} :
    ∀ piece ∈ text.splitOn '\n', '\n' ∉ piece := by
  induction text using piece_induction with
  | last piece whole =>
    rw [List.splitOn_eq_singleton whole]
    exact List.forall_mem_singleton.mpr whole
  | line piece rest whole ih =>
    rw [List.splitOn_append_cons_self_of_not_mem whole]
    exact List.forall_mem_cons.mpr ⟨whole, ih⟩

theorem lines_of_piece {piece : Text} (whole : '\n' ∉ piece) (some : piece ≠ []) :
    lines piece = [piece] := by
  induction piece with
  | nil => contradiction
  | cons c piece ih =>
    obtain ⟨other, rest⟩ := not_or.mp (List.mem_cons.not.mp whole)
    unfold lines
    rw [if_neg (Ne.symm other)]
    cases piece with
    | nil => rfl
    | cons d piece => rw [ih rest (List.cons_ne_nil d piece)]

theorem lines_append {piece : Text} (whole : '\n' ∉ piece) (rest : Text) :
    lines (piece ++ '\n' :: rest) = (piece ++ ['\n']) :: lines rest := by
  induction piece with
  | nil => rw [List.nil_append, lines, if_pos rfl, List.nil_append]
  | cons c piece ih =>
    obtain ⟨other, inner⟩ := not_or.mp (List.mem_cons.not.mp whole)
    rw [List.cons_append, lines, if_neg (Ne.symm other), ih inner, List.cons_append]

theorem lineContent_of_piece {piece : Text} (whole : '\n' ∉ piece) :
    lineContent piece = pieceBody piece := by
  have returns : ∀ c ∈ pieceEnding piece, isLineEnd c = true := by
    intro c member
    rw [eq_of_mem_pieceEnding member]
    decide
  have ends : ∀ c ∈ (pieceBody piece).getLast?, isLineEnd c = false := by
    intro c last
    have noReturn : (c == '\r') = false := @trimEnd_getLast (· == '\r') piece c last
    have inBody : c ∈ pieceBody piece := List.mem_of_mem_getLast? last
    have noFeed : c ≠ '\n' := by
      rintro rfl
      rw [← pieceBody_append_pieceEnding piece] at whole
      exact whole (List.mem_append_left _ inBody)
    simp [isLineEnd, noReturn, noFeed]
  calc lineContent piece = trimEnd isLineEnd (pieceBody piece ++ pieceEnding piece) := by
        rw [pieceBody_append_pieceEnding, lineContent]
    _ = pieceBody piece := by rw [trimEnd_append returns, trimEnd_eq_self ends]

theorem lineEnding_of_piece {piece : Text} (whole : '\n' ∉ piece) :
    lineEnding piece = pieceEnding piece := by
  have split := lineContent_append_lineEnding piece
  rw [lineContent_of_piece whole] at split
  exact List.append_cancel_left (split.trans (pieceBody_append_pieceEnding piece).symm)

theorem lineContent_append_lineFeed (line : Text) :
    lineContent (line ++ ['\n']) = lineContent line :=
  trimEnd_append (List.forall_mem_singleton.mpr (by decide)) line

theorem lineEnding_append_lineFeed (line : Text) :
    lineEnding (line ++ ['\n']) = lineEnding line ++ ['\n'] := by
  have split := lineContent_append_lineEnding (line ++ ['\n'])
  rw [lineContent_append_lineFeed] at split
  refine List.append_cancel_left (split.trans ?_)
  rw [← List.append_assoc, lineContent_append_lineEnding]

end InlineDice.Text
