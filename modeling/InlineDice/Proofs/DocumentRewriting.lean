import InlineDice.Proofs.DocumentRuns
import InlineDice.Proofs.RollCourse

namespace InlineDice

open Notation Text

/-- The dice lines among the pieces of a document, in order. -/
def diceBodies (pieces : List Text) : List Text :=
  (pieces.map pieceBody).filter fun body => (recognize body).isSome

/-- Puts the reports for the dice lines among the pieces, each without its last line feed and before
the carriage returns of its piece. The other pieces stay. -/
def fill : List Text → List Text → List Text
  | [], _ => []
  | piece :: pieces, [] => piece :: pieces
  | piece :: pieces, report :: reports =>
    if (recognize (pieceBody piece)).isSome then
      (report.dropLast ++ pieceEnding piece) :: fill pieces reports
    else piece :: fill pieces (report :: reports)

section

variable {piece : Text} {pieces : List Text}

theorem diceBodies_dice (dice : isDiceLine (pieceBody piece) = true) :
    diceBodies (piece :: pieces) = pieceBody piece :: diceBodies pieces := by
  simp [diceBodies, recognize_isSome, dice]

theorem diceBodies_other (other : isDiceLine (pieceBody piece) = false) :
    diceBodies (piece :: pieces) = diceBodies pieces := by
  simp [diceBodies, recognize_isSome, other]

theorem diceBodies_append (before after : List Text) :
    diceBodies (before ++ after) = diceBodies before ++ diceBodies after := by
  simp [diceBodies]

theorem fill_nil (pieces : List Text) : fill pieces [] = pieces := by
  cases pieces <;> rfl

theorem fill_dice (dice : isDiceLine (pieceBody piece) = true) (report : Text)
    (reports : List Text) :
    fill (piece :: pieces) (report :: reports) =
      (report.dropLast ++ pieceEnding piece) :: fill pieces reports := by
  simp [fill, recognize_isSome, dice]

theorem fill_other (other : isDiceLine (pieceBody piece) = false) (reports : List Text) :
    fill (piece :: pieces) reports = piece :: fill pieces reports := by
  cases reports with
  | nil => rw [fill_nil, fill_nil]
  | cons report reports => simp [fill, recognize_isSome, other]

end

namespace Pipeline

variable {σ : Type} [RandomSource σ] {p : Pipeline} {strict : Bool}

/-- The reports on the dice lines among the pieces, rolled in order on one source. -/
def rollPieces (p : Pipeline) (pieces : List Text) : Play σ (List Text) :=
  (diceBodies pieces).mapM p.roll

/-- How a piece stops the expansion of its document, and the draws it takes before. Only the floor
of the column can stop it after a draw. -/
inductive Stops (p : Pipeline) (strict : Bool) (body : Text) : Fault → List Draw → Prop
  | unread {fault : Fault} (dice : (recognize body).isSome = true)
      (unread : p.tokens body = .error fault) : Stops p strict body fault []
  | unmatched (only : strict = true) (other : recognize body = none)
      (marked : body.isBlank = false) : Stops p strict body (.malformedLine body) []
  | unwritten {tokens : List Token} (dice : (recognize body).isSome = true)
      (read : p.tokens body = .ok tokens) (wide : p.IsTooWide) :
      Stops p strict body .columnTooWide (tokens.flatMap Token.draws)

theorem Stops.draws_eq_nil {body : Text} {fault : Fault} {own : List Draw}
    (stops : p.Stops strict body fault own) (fits : ¬p.IsTooWide) : own = [] := by
  cases stops with
  | unread => rfl
  | unmatched => rfl
  | unwritten dice read wide => exact absurd wide fits

/-- With the built-in processors and an honest source a piece is expanded, or it stops and nothing
but the piece decides how. -/
theorem expandLine_run (honest : RandomSource.Honest σ) (builtin : p.registry = .builtin)
    {piece : Text} (whole : '\n' ∉ piece) (source : σ) :
    ∃ outcome rest own notes,
      (p.expandLine strict piece).run source = ⟨outcome, rest, own, notes⟩ ∧
        match outcome with
        | .ok _ => ∀ fault draws, ¬p.Stops strict (pieceBody piece) fault draws
        | .error fault => p.Stops strict (pieceBody piece) fault own := by
  cases dice : isDiceLine (pieceBody piece) with
  | false =>
    have unmatched := recognize_eq_none_iff.mpr dice
    rw [expandLine_other whole dice]
    by_cases refused : (strict && !(pieceBody piece).isBlank) = true
    · rw [if_pos refused]
      rw [Bool.and_eq_true, Bool.not_eq_true'] at refused
      exact ⟨_, source, [], [], rfl, .unmatched refused.1 unmatched refused.2⟩
    · rw [if_neg refused]
      refine ⟨.ok none, source, [], [], rfl, ?_⟩
      rintro fault draws (⟨dice, -⟩ | ⟨only, -, marked⟩ | ⟨dice, -, -⟩)
      · simp [unmatched] at dice
      · simp [only, marked] at refused
      · simp [unmatched] at dice
  | true =>
    have matched : (recognize (pieceBody piece)).isSome = true := by rw [recognize_isSome, dice]
    rw [expandLine_dice whole dice]
    cases read : p.tokens (pieceBody piece) with
    | error fault =>
      refine ⟨.error fault, source, [], [], ?_, .unread matched read⟩
      exact Play.run_map_of_failed (roll_of_unread read source)
    | ok tokens =>
      -- All dice are rolled before the width of the column is looked at.
      obtain ⟨instructions, rest, -, ran⟩ := roll_of_read honest builtin read source
      by_cases wide : p.IsTooWide
      · rw [if_pos wide] at ran
        exact ⟨_, rest, _, _, Play.run_map_of_failed ran, .unwritten matched read wide⟩
      · rw [if_neg wide] at ran
        refine ⟨.ok _, rest, _, _, Play.run_map_of_run ran, ?_⟩
        rintro fault draws (⟨-, unread⟩ | ⟨-, other, -⟩ | ⟨-, -, tooWide⟩)
        · rw [read] at unread
          cases unread
        · simp [other] at matched
        · exact wide tooWide

theorem stops_of_expandLine (honest : RandomSource.Honest σ) (builtin : p.registry = .builtin)
    {piece : Text} (whole : '\n' ∉ piece) {source rest : σ} {fault : Fault} {own : List Draw}
    {notes : List Note}
    (failed : (p.expandLine strict piece).run source = ⟨.error fault, rest, own, notes⟩) :
    p.Stops strict (pieceBody piece) fault own := by
  obtain ⟨outcome, _, _, _, ran, decided⟩ := expandLine_run honest builtin whole source
  rw [failed] at ran
  cases ran
  exact decided

theorem not_stops_of_expandLine (honest : RandomSource.Honest σ) (builtin : p.registry = .builtin)
    {piece : Text} (whole : '\n' ∉ piece) {source : σ} {replacement : Option Text}
    (expanded : ((p.expandLine strict piece).run source).outcome = .ok replacement) :
    ∀ fault draws, ¬p.Stops strict (pieceBody piece) fault draws := by
  obtain ⟨outcome, _, _, _, ran, decided⟩ := expandLine_run honest builtin whole source
  rw [ran] at expanded
  cases expanded
  exact decided

theorem not_stops_of_run (honest : RandomSource.Honest σ) (builtin : p.registry = .builtin)
    {pieces : List Text} (whole : ∀ piece ∈ pieces, '\n' ∉ piece) {source rest : σ}
    {draws : List Draw} {notes : List Note} {replacements : List (Option Text)}
    (ran : (pieces.mapM (p.expandLine strict)).run source =
      ⟨.ok replacements, rest, draws, notes⟩) :
    ∀ piece ∈ pieces, ∀ fault draws, ¬p.Stops strict (pieceBody piece) fault draws := by
  intro piece member
  obtain ⟨replacement, -, start, expanded⟩ :=
    forall₂_exists_right (Play.run_mapM_forall₂ ran) piece member
  exact not_stops_of_expandLine honest builtin (whole piece member) expanded

/-- Pieces are expanded as long as none stops, and the first one that does ends the run. -/
theorem stops_of_run (honest : RandomSource.Honest σ) (builtin : p.registry = .builtin)
    {pieces : List Text} (whole : ∀ piece ∈ pieces, '\n' ∉ piece) {source rest : σ} {fault : Fault}
    {draws : List Draw} {notes : List Note}
    (ran : (pieces.mapM (p.expandLine strict)).run source = ⟨.error fault, rest, draws, notes⟩) :
    ∃ before piece after replacements mid earlier earlierNotes own,
      pieces = before ++ piece :: after ∧
      (before.mapM (p.expandLine strict)).run source =
        ⟨.ok replacements, mid, earlier, earlierNotes⟩ ∧
      (∀ q ∈ before, ∀ fault draws, ¬p.Stops strict (pieceBody q) fault draws) ∧
      p.Stops strict (pieceBody piece) fault own ∧ draws = earlier ++ own := by
  obtain ⟨before, piece, after, replacements, mid, earlier, earlierNotes, own, ownNotes, rfl,
    ranBefore, fails, rfl⟩ := Play.run_mapM_eq_error ran
  have stops := stops_of_expandLine honest builtin (whole piece (by simp)) fails
  refine ⟨before, piece, after, replacements, mid, earlier, earlierNotes, own, rfl, ranBefore, ?_,
    stops, rfl⟩
  exact not_stops_of_run honest builtin (fun q member => whole q (by simp [member])) ranBefore

/-- Expanding pieces fills them with the reports on their dice lines, and draws for nothing else. -/
theorem fill_of_run {pieces : List Text} (whole : ∀ piece ∈ pieces, '\n' ∉ piece) {source rest : σ}
    {draws : List Draw} {notes : List Note} {replacements : List (Option Text)}
    (ran : (pieces.mapM (p.expandLine strict)).run source =
      ⟨.ok replacements, rest, draws, notes⟩) :
    ∃ reports, (p.rollPieces pieces).run source = ⟨.ok reports, rest, draws, notes⟩ ∧
      List.zipWith (fun piece replacement => replacement.getD piece) pieces replacements =
        fill pieces reports ∧
      (replacements.filter Option.isSome).length = (diceBodies pieces).length := by
  -- The source and the draws differ from piece to piece, so the induction is for all of them.
  induction pieces generalizing source draws notes replacements with
  | nil =>
    cases ran
    exact ⟨[], rfl, rfl, rfl⟩
  | cons piece pieces ih =>
    obtain ⟨wholePiece, wholePieces⟩ := List.forall_mem_cons.mp whole
    obtain ⟨replacement, mid, firstDraws, firstNotes, laterDraws, laterNotes, first,
      ⟨more, later, rfl⟩, rfl, rfl⟩ := Play.run_mapM_cons_eq_iff.mp ran
    obtain ⟨reports, rolled, filled, counted⟩ := ih wholePieces later
    cases dice : isDiceLine (pieceBody piece) with
    | true =>
      rw [expandLine_dice wholePiece dice] at first
      obtain ⟨report, rolledFirst, rfl⟩ := Play.run_map_eq_iff.mp first
      refine ⟨report :: reports, ?_, ?_, ?_⟩
      · unfold rollPieces
        rw [diceBodies_dice dice]
        exact Play.run_mapM_cons_eq_iff.mpr ⟨report, mid, firstDraws, firstNotes, laterDraws,
          laterNotes, rolledFirst, ⟨reports, rolled, rfl⟩, rfl, rfl⟩
      · rw [fill_dice dice, List.zipWith_cons_cons, filled]
        rfl
      · rw [diceBodies_dice dice]
        simp [counted]
    | false =>
      rw [expandLine_other wholePiece dice] at first
      split at first
      · cases first
      · cases first
        refine ⟨reports, ?_, ?_, ?_⟩
        · unfold rollPieces
          rw [diceBodies_other dice]
          exact rolled
        · rw [fill_other dice, List.zipWith_cons_cons, filled]
          rfl
        · rw [diceBodies_other dice, ← counted]
          rfl

theorem getLast?_of_roll {text report : Text} {source : σ}
    (ran : ((p.roll text).run source).outcome = .ok report) : report.getLast? = some '\n' := by
  obtain ⟨tokens, throws, -, -, -, rfl⟩ := roll_eq_ok ran
  rw [Report.render_eq_intercalate]
  simp

/-- Expanding a document is rewriting it piece by piece. If it succeeds, the pieces between the line
feeds are filled with the reports on the dice lines among them, rolled in order on the one source.
If it fails, the first piece that stops it decides the fault, after the draws of those before it. -/
theorem expand_rewrites_pieces (p : Pipeline) (strict : Bool) (text : Text) (source : σ) :
    (∀ out, ((p.expand strict text).run source).outcome = .ok out →
      ∃ reports, ((p.rollPieces (text.splitOn '\n')).run source).outcome = .ok reports ∧
        ((p.rollPieces (text.splitOn '\n')).run source).draws =
          ((p.expand strict text).run source).draws ∧
        ((p.rollPieces (text.splitOn '\n')).run source).source =
          ((p.expand strict text).run source).source ∧
        (∀ report ∈ reports, report.getLast? = some '\n') ∧
        out = ⟨['\n'].intercalate (fill (text.splitOn '\n') reports),
          (diceBodies (text.splitOn '\n')).length⟩) ∧
    (RandomSource.Honest σ → p.registry = .builtin →
      ∀ fault, ((p.expand strict text).run source).outcome = .error fault →
        ∃ before piece after reports own, text.splitOn '\n' = before ++ piece :: after ∧
          (∀ earlier ∈ before, ∀ fault draws, ¬p.Stops strict (pieceBody earlier) fault draws) ∧
          p.Stops strict (pieceBody piece) fault own ∧
          ((p.rollPieces before).run source).outcome = .ok reports ∧
          ((p.expand strict text).run source).draws =
            ((p.rollPieces before).run source).draws ++ own ∧
          (¬p.IsTooWide → own = [])) := by
  have whole := @lineFeed_not_mem_of_mem_splitOn text
  rcases ran : ((text.splitOn '\n').mapM (p.expandLine strict)).run source with
    ⟨fault | replacements, rest, draws, notes⟩
  · rw [expand_of_error ran]
    refine ⟨by simp, ?_⟩
    intro honest builtin fault' same
    cases same
    obtain ⟨before, piece, after, replacements, mid, earlier, earlierNotes, own, split, ranBefore,
      fine, stops, rfl⟩ := stops_of_run honest builtin whole ran
    rw [split] at whole
    -- Up to the piece that fails, the run is that of a document that ends before it.
    obtain ⟨reports, rolled, -, -⟩ :=
      fill_of_run (fun q member => whole q (List.mem_append_left _ member)) ranBefore
    exact ⟨before, piece, after, reports, own, split, fine, stops, by rw [rolled], by rw [rolled],
      stops.draws_eq_nil⟩
  · rw [expand_of_ok ran]
    obtain ⟨reports, rolled, filled, counted⟩ := fill_of_run whole ran
    refine ⟨?_, by simp⟩
    intro out same
    cases same
    refine ⟨reports, by rw [rolled], by rw [rolled], by rw [rolled], ?_, ?_⟩
    · intro report member
      obtain ⟨body, -, start, came⟩ :=
        forall₂_exists_left (Play.run_mapM_forall₂ rolled) report member
      exact getLast?_of_roll came
    · rw [Expanded.ofPieces, filled, counted]

theorem expand_rewrites_pieces_lowest :
    (∃ reports, ((Pipeline.default.expand false "2d6\r\nhi".toList).run Lowest.lowest).outcome =
      .ok ⟨['\n'].intercalate (fill ["2d6\r".toList, "hi".toList] reports), 1⟩) ∧
    ∃ fault before, ((Pipeline.default.expand false "2d6\nd0".toList).run Lowest.lowest).outcome =
        .error fault ∧
      ((Pipeline.default.expand false "2d6\nd0".toList).run Lowest.lowest).draws =
        ((Pipeline.default.rollPieces before).run Lowest.lowest).draws := by
  have expanded :
      ((Pipeline.default.expand false "2d6\r\nhi".toList).run Lowest.lowest).outcome.toBool = true := by
    decide +kernel
  have failed :
      ((Pipeline.default.expand false "2d6\nd0".toList).run Lowest.lowest).outcome.toBool = false := by
    decide +kernel
  obtain ⟨out, expanded⟩ := toBool_eq_true_iff.mp expanded
  obtain ⟨fault, failed⟩ := toBool_eq_false_iff.mp failed
  obtain ⟨reports, -, -, -, -, same⟩ := (expand_rewrites_pieces _ _ _ _).1 out expanded
  obtain ⟨before, -, -, -, own, -, -, -, -, draws, fits⟩ :=
    (expand_rewrites_pieces _ _ _ _).2 Lowest.honest rfl fault failed
  have none : own = [] := fits (by decide)
  rw [none, List.append_nil] at draws
  exact ⟨⟨reports, expanded.trans (congrArg _ same)⟩, fault, before, failed, draws⟩

/-- A pipeline whose floor is the first width that cannot be asked for. -/
def tooWide : Pipeline := ⟨.builtin, 0x8000000000000000, Report.defaultLabel⟩

/-- Where the column is too wide, the piece at fault has been rolled: the draws are not only those of
the pieces before it. -/
theorem expand_tooWide_draws :
    ((tooWide.expand false "d6".toList).run Lowest.lowest).outcome = .error .columnTooWide ∧
      ((tooWide.expand false "d6".toList).run Lowest.lowest).draws = [⟨1, 6⟩] ∧
      "d6".toList.splitOn '\n' = [] ++ "d6".toList :: [] ∧
      ((tooWide.rollPieces []).run Lowest.lowest).draws = [] := by
  have read : tooWide.tokens "d6".toList = .ok [⟨"1d6".toList, 1, 6, none⟩] := by rfl
  have whole : '\n' ∉ "d6".toList := by decide
  have alone : "d6".toList.splitOn '\n' = ["d6".toList] := List.splitOn_eq_singleton whole
  have wide : tooWide.IsTooWide := by decide
  have dice : isDiceLine (pieceBody "d6".toList) = true := by decide
  have body : pieceBody "d6".toList = "d6".toList := by decide
  obtain ⟨instructions, rest, -, rolled⟩ := roll_of_read Lowest.honest rfl read .lowest
  rw [if_pos wide] at rolled
  have ran : (("d6".toList.splitOn '\n').mapM (tooWide.expandLine false)).run Lowest.lowest =
      ⟨.error .columnTooWide, rest, [⟨1, 6⟩], [.rolled instructions.length false]⟩ := by
    have mapped := Play.run_map_of_failed
      (f := fun report => some (report.dropLast ++ pieceEnding "d6".toList)) rolled
    rw [alone, Play.mapM_cons_play, expandLine_dice whole dice, body,
      Play.run_bind_of_error (by rw [mapped]), mapped]
    rfl
  exact ⟨by rw [expand_of_error ran], by rw [expand_of_error ran], alone, rfl⟩

end Pipeline

end InlineDice
