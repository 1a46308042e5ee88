import InlineDice.Proofs.DocumentRewriting

namespace InlineDice

open Notation Text

/-- A piece of a document that strict expansion lets stand: a blank line, or one that it replaces. -/
def isAdmitted (piece : Text) : Bool :=
  (pieceBody piece).isBlank || (recognize (pieceBody piece)).isSome

/-- Either all pieces are admitted, or there is a first one that is not. -/
theorem admitted_or_rejected (pieces : List Text) :
    (∀ piece ∈ pieces, isAdmitted piece = true) ∨
      ∃ before piece after, pieces = before ++ piece :: after ∧
        (∀ earlier ∈ before, isAdmitted earlier = true) ∧ isAdmitted piece = false := by
  cases first : pieces.find? (!isAdmitted ·) with
  | none => exact .inl (by simpa using first)
  | some piece =>
    obtain ⟨rejected, before, after, split, admitted⟩ := List.find?_eq_some_iff_append.mp first
    exact .inr ⟨before, piece, after, split, by simpa using admitted, by simpa using rejected⟩

namespace Pipeline

variable {σ : Type} [RandomSource σ] {p : Pipeline} {piece : Text} {text : Text}

theorem expandLine_of_isAdmitted (whole : '\n' ∉ piece) (admitted : isAdmitted piece = true) :
    (p.expandLine true piece : Play σ (Option Text)) = p.expandLine false piece := by
  cases dice : isDiceLine (pieceBody piece) with
  | true => rw [expandLine_dice whole dice, expandLine_dice whole dice]
  | false =>
    have blank : (pieceBody piece).isBlank = true := by
      simpa [isAdmitted, recognize_isSome, dice] using admitted
    rw [expandLine_other whole dice, expandLine_other whole dice, blank]
    rfl

theorem expandLine_of_not_isAdmitted (whole : '\n' ∉ piece) (rejected : isAdmitted piece = false) :
    (p.expandLine true piece : Play σ (Option Text)) = .fail (.malformedLine (pieceBody piece)) := by
  obtain ⟨marked, other⟩ : (pieceBody piece).isBlank = false ∧ isDiceLine (pieceBody piece) = false := by
    simpa [isAdmitted, recognize_isSome] using rejected
  rw [expandLine_other whole other, marked]
  rfl

/-- Where nothing is made of the replacements, admitted pieces are run for their dice lines alone. -/
theorem mapM_expandLine_bind {β : Type} {pieces : List Text} (whole : ∀ piece ∈ pieces, '\n' ∉ piece)
    (admitted : ∀ piece ∈ pieces, isAdmitted piece = true) (next : Play σ β) :
    (pieces.mapM (p.expandLine true) >>= fun _ => next) = p.rollPieces pieces >>= fun _ => next := by
  induction pieces with
  | nil => rfl
  | cons piece pieces ih =>
    obtain ⟨wholeFirst, wholeLater⟩ := List.forall_mem_cons.mp whole
    obtain ⟨first, later⟩ := List.forall_mem_cons.mp admitted
    -- A dice line is one roll on either side; what is made of its report is thrown away.
    have rest := ih wholeLater later
    unfold rollPieces at rest ⊢
    rw [Play.mapM_cons_play]
    cases dice : isDiceLine (pieceBody piece) with
    | true =>
      rw [expandLine_dice wholeFirst dice, diceBodies_dice dice, Play.mapM_cons_play]
      simp only [bind_map_left, bind_assoc]
      exact bind_congr fun _ => rest
    | false =>
      rw [expandLine_of_isAdmitted wholeFirst first, expandLine_other wholeFirst dice,
        diceBodies_other dice]
      simpa only [Bool.false_and, Bool.false_eq_true, if_false, pure_bind, bind_map_left] using rest

/-- As long as every piece is admitted, being strict makes no difference at all. -/
theorem expand_strict_of_admitted (admitted : ∀ piece ∈ text.splitOn '\n', isAdmitted piece = true) :
    (p.expand true text : Play σ Expanded) = p.expand false text := by
  have same : (text.splitOn '\n').mapM (p.expandLine true : Text → Play σ (Option Text)) =
      (text.splitOn '\n').mapM (p.expandLine false) :=
    Play.mapM_congr fun piece member =>
      expandLine_of_isAdmitted (lineFeed_not_mem_of_mem_splitOn piece member) (admitted piece member)
  unfold expand
  rw [expandLines_lines, expandLines_lines, same]

/-- The first piece that is not admitted ends a strict expansion, unless a dice line before it does. -/
theorem expand_strict_of_rejected {before after : List Text}
    (split : text.splitOn '\n' = before ++ piece :: after)
    (admitted : ∀ earlier ∈ before, isAdmitted earlier = true) (rejected : isAdmitted piece = false) :
    (p.expand true text : Play σ Expanded) =
      p.rollPieces before >>= fun _ => .fail (.malformedLine (pieceBody piece)) := by
  have whole := @lineFeed_not_mem_of_mem_splitOn text
  rw [split] at whole
  obtain ⟨wholeBefore, wholeLater⟩ := List.forall_mem_append.mp whole
  have fails := expandLine_of_not_isAdmitted (σ := σ) (p := p)
    (wholeLater piece (List.mem_cons_self ..)) rejected
  rw [← mapM_expandLine_bind wholeBefore admitted]
  unfold expand
  rw [expandLines_lines, split, List.mapM_append, Play.mapM_cons_play, fails]
  simp only [bind_map_left, bind_assoc, Play.fail_bind]

/-- The dice lines at the beginning of a document that is expanded are all rolled. -/
theorem rollPieces_of_expand {strict : Bool} {before after : List Text} {out : Expanded} {source : σ}
    (expanded : ((p.expand strict text).run source).outcome = .ok out)
    (split : text.splitOn '\n' = before ++ after) :
    ∃ reports, ((p.rollPieces before).run source).outcome = .ok reports := by
  obtain ⟨reports, rolled, -⟩ := (expand_rewrites_pieces p strict text source).1 out expanded
  rcases ran : (p.rollPieces before).run source with ⟨fault | reports, rest, draws, notes⟩
  · unfold rollPieces at ran rolled
    rw [split, diceBodies_append, List.mapM_append, Play.run_bind_of_error (by rw [ran])] at rolled
    cases rolled
  · exact ⟨reports, rfl⟩

/-- Being strict only adds rejections. A strict expansion that succeeds is the very run of the lenient
one. Where the lenient one succeeds, the strict one does too exactly if each line is blank or a dice
line. Else the first line that is neither is at fault, after the rolls of the dice lines before it. -/
theorem strict_only_rejects (p : Pipeline) (text : Text) (source : σ) :
    (∀ out, ((p.expand true text).run source).outcome = .ok out →
      (p.expand false text).run source = (p.expand true text).run source) ∧
    ∀ out, ((p.expand false text).run source).outcome = .ok out →
      ((∃ out, ((p.expand true text).run source).outcome = .ok out) ↔
        ∀ piece ∈ text.splitOn '\n', isAdmitted piece = true) ∧
      ((¬∀ piece ∈ text.splitOn '\n', isAdmitted piece = true) →
        ∃ before piece after reports, text.splitOn '\n' = before ++ piece :: after ∧
          (∀ earlier ∈ before, isAdmitted earlier = true) ∧ isAdmitted piece = false ∧
          ((p.rollPieces before).run source).outcome = .ok reports ∧
          (p.expand true text).run source =
            ((p.rollPieces before).run source).endedBy (.malformedLine (pieceBody piece))) := by
  rcases admitted_or_rejected (text.splitOn '\n') with admitted |
    ⟨before, piece, after, split, admitted, rejected⟩
  · rw [expand_strict_of_admitted admitted]
    exact ⟨fun _ _ => rfl, fun out expanded =>
      ⟨⟨fun _ => admitted, fun _ => ⟨out, expanded⟩⟩, fun not => absurd admitted not⟩⟩
  · have strictly := expand_strict_of_rejected (σ := σ) (p := p) split admitted rejected
    have fails : ∀ out, ((p.expand true text).run source).outcome ≠ .ok out := by
      intro out expanded
      obtain ⟨reports, rolled⟩ := rollPieces_of_expand expanded split
      rw [strictly, Play.run_bind_of_ok rolled] at expanded
      cases expanded
    refine ⟨fun out expanded => absurd expanded (fails out), fun out expanded => ⟨?_, fun _ => ?_⟩⟩
    · refine ⟨fun ⟨out, expanded⟩ => absurd expanded (fails out), fun all => ?_⟩
      have member : piece ∈ text.splitOn '\n' := by simp [split]
      rw [all piece member] at rejected
      cases rejected
    · obtain ⟨reports, rolled⟩ := rollPieces_of_expand expanded split
      refine ⟨before, piece, after, reports, split, admitted, rejected, rolled, ?_⟩
      rw [strictly, Play.run_bind_of_ok rolled]
      simp [Played.followedBy, Played.endedBy, Play.fail, Play.run_ofExcept]

theorem strict_only_rejects_lowest :
    (default.expand false "2d6\r\n \nd4".toList).run Lowest.lowest =
        (default.expand true "2d6\r\n \nd4".toList).run .lowest ∧
      "d6\nhi".toList.splitOn '\n' = ["d6".toList, "hi".toList] ∧
      (default.expand true "d6\nhi".toList).run Lowest.lowest =
        ((default.rollPieces ["d6".toList]).run .lowest).endedBy (.malformedLine "hi".toList) := by
  have strictly :
      ((default.expand true "2d6\r\n \nd4".toList).run Lowest.lowest).outcome.toBool = true := by
    decide +kernel
  have leniently : ((default.expand false "d6\nhi".toList).run Lowest.lowest).outcome.toBool = true := by
    decide +kernel
  have pieces : "d6\nhi".toList.splitOn '\n' = ["d6".toList, "hi".toList] := by decide
  obtain ⟨out, strictly⟩ := toBool_eq_true_iff.mp strictly
  obtain ⟨text, leniently⟩ := toBool_eq_true_iff.mp leniently
  have same := (strict_only_rejects default "2d6\r\n \nd4".toList Lowest.lowest).1 out strictly
  have notAll : ¬∀ piece ∈ "d6\nhi".toList.splitOn '\n', isAdmitted piece = true := by
    rw [pieces]
    decide
  obtain ⟨before, piece, after, reports, split, -, rejected, -, ran⟩ :=
    ((strict_only_rejects default "d6\nhi".toList Lowest.lowest).2 text leniently).2 notAll
  rw [pieces] at split
  have onlyDice : isAdmitted "d6".toList = true := by decide
  rcases before with _ | ⟨first, _ | ⟨second, before⟩⟩
  · cases split
    rw [onlyDice] at rejected
    cases rejected
  · cases split
    exact ⟨same, pieces, ran⟩
  · simp at split

end Pipeline

end InlineDice
