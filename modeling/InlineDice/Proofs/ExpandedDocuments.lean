import InlineDice.Proofs.DocumentRuns
import InlineDice.Proofs.RollCourse

namespace InlineDice

open Notation Text

/-- A document without a dice line between its line feeds. -/
def IsPlain (s : Text) : Prop := ∀ piece ∈ s.splitOn '\n', isDiceLine piece = false

namespace IsPlain

theorem of_piece {piece : Text} (whole : '\n' ∉ piece) (other : isDiceLine piece = false) :
    IsPlain piece := by
  unfold IsPlain
  rw [List.splitOn_eq_singleton whole]
  exact List.forall_mem_singleton.mpr other

theorem append_lineFeed {s t : Text} (first : IsPlain s) (later : IsPlain t) :
    IsPlain (s ++ '\n' :: t) := by
  unfold IsPlain
  rw [List.splitOn_append_cons_self]
  exact List.forall_mem_append.mpr ⟨first, later⟩

theorem intercalate {parts : List Text} (all : ∀ part ∈ parts, IsPlain part) :
    IsPlain (['\n'].intercalate parts) := by
  induction parts with
  | nil => exact of_piece (by simp) (by decide)
  | cons part parts ih =>
    obtain ⟨first, later⟩ := List.forall_mem_cons.mp all
    cases parts with
    | nil => simpa using first
    | cons next parts =>
      have joined : ['\n'].intercalate (part :: next :: parts) =
          part ++ '\n' :: ['\n'].intercalate (next :: parts) := by simp
      rw [joined]
      exact first.append_lineFeed (ih later)

end IsPlain

/-- Carriage returns at the end of a line make no dice line of it and unmake none. -/
theorem isDiceLine_append_pieceEnding (s piece : Text) :
    isDiceLine (s ++ pieceEnding piece) = isDiceLine s := by
  have separators : ∀ c ∈ pieceEnding piece, isSeparator c = true := by
    intro c member
    rw [eq_of_mem_pieceEnding member]
    decide
  exact isDiceLine_congr (tokenize_append_right separators s)

theorem isDiceLine_pieceBody (piece : Text) : isDiceLine (pieceBody piece) = isDiceLine piece := by
  rw [← isDiceLine_append_pieceEnding (pieceBody piece) piece, pieceBody_append_pieceEnding]

theorem IsPlain.append_pieceEnding {s : Text} (plain : IsPlain s) (piece : Text) :
    IsPlain (s ++ pieceEnding piece) := by
  have noFeed : '\n' ∉ pieceEnding piece := fun member =>
    absurd (eq_of_mem_pieceEnding member) (by decide)
  induction s using piece_induction with
  | last s whole =>
    refine .of_piece (by simp [whole, noFeed]) ?_
    rw [isDiceLine_append_pieceEnding]
    unfold IsPlain at plain
    rw [List.splitOn_eq_singleton whole] at plain
    exact plain s (List.mem_singleton_self s)
  | line first rest whole ih =>
    unfold IsPlain at plain
    rw [List.splitOn_append_cons_self_of_not_mem whole] at plain
    obtain ⟨plainFirst, plainRest⟩ := List.forall_mem_cons.mp plain
    rw [List.append_assoc]
    exact (of_piece whole plainFirst).append_lineFeed (ih plainRest)

theorem Expanded.ofPieces_none (pieces : List Text) :
    Expanded.ofPieces pieces (pieces.map fun _ => none) = ⟨['\n'].intercalate pieces, 0⟩ := by
  have stays : List.zipWith (fun piece report => report.getD piece) pieces
      (pieces.map fun _ => none) = pieces := by
    induction pieces with
    | nil => rfl
    | cons piece pieces ih => simpa using ih
  rw [Expanded.ofPieces, stays]
  simp

namespace Pipeline

variable {σ : Type} [RandomSource σ] {p : Pipeline} {strict : Bool} {source : σ}

/-- A report is plain, with its last line feed and without. -/
theorem isPlain_of_roll (wholeLabel : '\n' ∉ p.label) {text report : Text}
    (ran : ((p.roll text).run source).outcome = .ok report) :
    IsPlain report ∧ IsPlain report.dropLast := by
  obtain ⟨lines, rfl, all⟩ := exists_lines_of_roll wholeLabel ran
  have plain : IsPlain (['\n'].intercalate lines) :=
    .intercalate fun line member => .of_piece (all line member).1 (all line member).2
  refine ⟨plain.append_lineFeed (.of_piece (by simp) (by decide)), ?_⟩
  rwa [List.dropLast_concat]

/-- What stands for a piece after expansion is plain, be it the piece or a report. -/
theorem isPlain_of_expandLine (wholeLabel : '\n' ∉ p.label) {piece : Text} (whole : '\n' ∉ piece)
    {replacement : Option Text}
    (ran : ((p.expandLine strict piece).run source).outcome = .ok replacement) :
    IsPlain (replacement.getD piece) := by
  cases dice : isDiceLine (pieceBody piece) with
  | true =>
    rw [expandLine_dice whole dice] at ran
    obtain ⟨report, rolled, rfl⟩ := Play.run_map_eq_ok_iff.mp ran
    exact (isPlain_of_roll wholeLabel rolled).2.append_pieceEnding piece
  | false =>
    have other : isDiceLine piece = false := by rw [← isDiceLine_pieceBody, dice]
    rw [expandLine_other whole dice] at ran
    split at ran
    · cases ran
    · cases ran
      exact .of_piece whole other

theorem isPlain_of_expand (wholeLabel : '\n' ∉ p.label) {text : Text} {out : Expanded}
    (ran : ((p.expand strict text).run source).outcome = .ok out) : IsPlain out.text := by
  rcases pieces : ((text.splitOn '\n').mapM (p.expandLine strict)).run source with
    ⟨fault | replacements, rest, draws, notes⟩
  · rw [expand_of_error pieces] at ran
    cases ran
  · rw [expand_of_ok pieces] at ran
    cases ran
    refine .intercalate ?_
    intro part member
    rw [← List.map_uncurry_zip_eq_zipWith] at member
    -- Each part is a piece or what replaced it, from the run on that piece alone.
    obtain ⟨⟨piece, replacement⟩, paired, rfl⟩ := List.mem_map.mp member
    obtain ⟨start, came⟩ := List.forall₂_zip (Play.run_mapM_forall₂ pieces) paired
    have whole := lineFeed_not_mem_of_mem_splitOn piece (List.of_mem_zip paired).1
    exact isPlain_of_expandLine wholeLabel whole came

/-- Plain pieces all stay. -/
theorem mapM_expandLine_of_plain {pieces : List Text}
    (plain : ∀ piece ∈ pieces, '\n' ∉ piece ∧ isDiceLine piece = false) :
    (pieces.mapM (p.expandLine false) : Play σ (List (Option Text))) =
      pure (pieces.map fun _ => none) := by
  induction pieces with
  | nil => rfl
  | cons piece pieces ih =>
    obtain ⟨⟨whole, other⟩, later⟩ := List.forall_mem_cons.mp plain
    rw [← isDiceLine_pieceBody] at other
    rw [Play.mapM_cons_play, expandLine_other whole other, ih later]
    rfl

/-- A plain document stays as it is, and costs no draw. -/
theorem expand_of_isPlain (p : Pipeline) {text : Text} (plain : IsPlain text) (source : σ) :
    (p.expand false text).run source = ⟨.ok ⟨text, 0⟩, source, [], [.expanded 0]⟩ := by
  have stay : ((text.splitOn '\n').mapM (p.expandLine false)).run source =
      ⟨.ok ((text.splitOn '\n').map fun _ => none), source, [], []⟩ := by
    rw [mapM_expandLine_of_plain fun piece member =>
      ⟨lineFeed_not_mem_of_mem_splitOn piece member, plain piece member⟩, Play.run_pure]
  rw [expand_of_ok stay, Expanded.ofPieces_none, List.intercalate_splitOn]
  simp

/-- Nothing that a pipeline has put out is expanded again: no line of a report is a dice line, and
an expanded document stays as it is at the next expansion, which makes no draw. -/
theorem expanded_not_expanded_again (p : Pipeline) (wholeLabel : '\n' ∉ p.label) (text : Text)
    (source : σ) :
    (∀ report, ((p.roll text).run source).outcome = .ok report →
      ∀ line ∈ report.splitOn '\n', recognize line = none) ∧
    ∀ strict out, ((p.expand strict text).run source).outcome = .ok out →
      ∀ later : σ, (p.expand false out.text).run later =
        ⟨.ok ⟨out.text, 0⟩, later, [], [.expanded 0]⟩ := by
  constructor
  · intro report ran line member
    exact recognize_eq_none_iff.mpr ((isPlain_of_roll wholeLabel ran).1 line member)
  · intro strict out ran later
    exact expand_of_isPlain p (isPlain_of_expand wholeLabel ran) later

/-- A pipeline whose label looks like dice. -/
def diceLabel : Pipeline := ⟨.builtin, 0, "1d6".toList⟩

theorem expanded_not_expanded_again_dice_label :
    '\n' ∉ diceLabel.label ∧
    (∃ report, ((diceLabel.roll "2d6+".toList).run Lowest.lowest).outcome = .ok report ∧
      ∀ line ∈ report.splitOn '\n', recognize line = none) ∧
    ∃ out, ((diceLabel.expand true "2d6+\r\n\nd4".toList).run Lowest.lowest).outcome = .ok out ∧
      (diceLabel.expand false out.text).run Lowest.lowest =
        ⟨.ok ⟨out.text, 0⟩, .lowest, [], [.expanded 0]⟩ := by
  have wholeLabel : '\n' ∉ diceLabel.label := by decide
  have rolled : ((diceLabel.roll "2d6+".toList).run Lowest.lowest).outcome.toBool = true := by
    decide +kernel
  have expanded :
      ((diceLabel.expand true "2d6+\r\n\nd4".toList).run Lowest.lowest).outcome.toBool = true := by
    decide +kernel
  obtain ⟨report, rolled⟩ := toBool_eq_true_iff.mp rolled
  obtain ⟨out, expanded⟩ := toBool_eq_true_iff.mp expanded
  obtain ⟨lines, -⟩ := expanded_not_expanded_again diceLabel wholeLabel "2d6+".toList Lowest.lowest
  obtain ⟨-, again⟩ :=
    expanded_not_expanded_again diceLabel wholeLabel "2d6+\r\n\nd4".toList Lowest.lowest
  exact ⟨wholeLabel, ⟨report, rolled, lines report rolled⟩, out, expanded,
    again true out expanded .lowest⟩

end Pipeline

end InlineDice
