import InlineDice.Proofs.DocumentRewriting

namespace InlineDice

open Notation

namespace Text

/-- How many carriage returns stand without a line feed after them. -/
def loneReturns : Text → Nat
  | [] => 0
  | '\r' :: '\n' :: rest => loneReturns rest
  | c :: rest => (if c = '\r' then 1 else 0) + loneReturns rest

/-- A carriage return before a line feed is left out. Any other character is kept or replaced, whatever
comes after it. -/
theorem unifyLineEnds_cons_cases (c : Char) (rest : Text) :
    (c = '\r' ∧ rest.head? = some '\n' ∧ unifyLineEnds (c :: rest) = unifyLineEnds rest ∧
      loneReturns (c :: rest) = loneReturns rest) ∨
    ¬(c = '\r' ∧ rest.head? = some '\n') ∧
      unifyLineEnds (c :: rest) = (if c = '\r' then '\n' else c) :: unifyLineEnds rest ∧
      loneReturns (c :: rest) = (if c = '\r' then 1 else 0) + loneReturns rest := by
  by_cases pair : c = '\r' ∧ rest.head? = some '\n'
  · obtain ⟨rfl, first⟩ := pair
    obtain ⟨more, rfl⟩ := List.head?_eq_some_iff.mp first
    exact .inl ⟨rfl, rfl, by simp [unifyLineEnds], by simp [loneReturns]⟩
  · have single : ∀ more, c = '\r' → rest = '\n' :: more → False := by
      rintro more rfl rfl
      exact pair ⟨rfl, rfl⟩
    exact .inr ⟨pair, by rw [unifyLineEnds]; exact single, by rw [loneReturns]; exact single⟩

theorem unifyLineEnds_of_not_mem {s : Text} (free : '\r' ∉ s) :
    unifyLineEnds s = s ∧ loneReturns s = 0 := by
  induction s with
  | nil => exact ⟨rfl, rfl⟩
  | cons c rest ih =>
    obtain ⟨other, later⟩ := not_or.mp (List.mem_cons.not.mp free)
    rcases unifyLineEnds_cons_cases c rest with ⟨rfl, -⟩ | ⟨-, unified, lone⟩
    · exact absurd rfl other
    · rw [unified, lone, if_neg (Ne.symm other), if_neg (Ne.symm other), (ih later).1, (ih later).2]
      exact ⟨rfl, rfl⟩

theorem return_not_mem_unifyLineEnds (s : Text) : '\r' ∉ unifyLineEnds s := by
  induction s with
  | nil => simp [unifyLineEnds]
  | cons c rest ih =>
    rcases unifyLineEnds_cons_cases c rest with ⟨-, -, unified, -⟩ | ⟨-, unified, -⟩
    · rwa [unified]
    · rw [unified, List.mem_cons, not_or]
      refine ⟨?_, ih⟩
      split
      · decide
      · next other => exact Ne.symm other

theorem count_lineFeed_unifyLineEnds (s : Text) :
    (unifyLineEnds s).count '\n' = s.count '\n' + loneReturns s := by
  induction s with
  | nil => rfl
  | cons c rest ih =>
    rcases unifyLineEnds_cons_cases c rest with ⟨rfl, -, unified, lone⟩ | ⟨-, unified, lone⟩
    · rw [unified, lone, ih, List.count_cons_of_ne (by decide)]
    · rw [unified, lone, List.count_cons, List.count_cons, ih]
      by_cases isReturn : c = '\r'
      · simp [isReturn]
        omega
      · simp [isReturn]
        omega

/-- Texts can be joined before or after, but where that joins a carriage return to a line feed. -/
theorem unifyLineEnds_append {s t : Text} (apart : ¬(s.getLast? = some '\r' ∧ t.head? = some '\n')) :
    unifyLineEnds (s ++ t) = unifyLineEnds s ++ unifyLineEnds t := by
  induction s with
  | nil => rfl
  | cons c rest ih =>
    by_cases last : rest = []
    · subst last
      rcases unifyLineEnds_cons_cases c t with ⟨rfl, first, -⟩ | ⟨-, whole, -⟩
      · exact absurd ⟨rfl, first⟩ apart
      · rcases unifyLineEnds_cons_cases c [] with ⟨-, first, -⟩ | ⟨-, alone, -⟩
        · cases first
        · rw [alone, List.singleton_append, whole]
          rfl
    · have sameHead : (rest ++ t).head? = rest.head? := List.head?_append_of_ne_nil rest last
      have sameLast : (c :: rest).getLast? = rest.getLast? := List.getLast?_cons_of_ne_nil last
      rw [sameLast] at apart
      have whole := unifyLineEnds_cons_cases c (rest ++ t)
      rw [sameHead] at whole
      rcases unifyLineEnds_cons_cases c rest with ⟨isReturn, feed, part, -⟩ | ⟨single, part, -⟩
      · rcases whole with ⟨-, -, whole, -⟩ | ⟨single, -⟩
        · rw [List.cons_append, whole, part, ih apart]
        · exact absurd ⟨isReturn, feed⟩ single
      · rcases whole with ⟨isReturn, feed, -⟩ | ⟨-, whole, -⟩
        · exact absurd ⟨isReturn, feed⟩ single
        · rw [List.cons_append, whole, part, ih apart, List.cons_append]

theorem unifyLineEnds_cons_lineFeed (s : Text) : unifyLineEnds ('\n' :: s) = '\n' :: unifyLineEnds s := by
  rcases unifyLineEnds_cons_cases '\n' s with ⟨other, -⟩ | ⟨-, unified, -⟩
  · exact absurd other (by decide)
  · exact unified

theorem isSeparator_unified {c : Char} (sep : isSeparator c = true) :
    isSeparator (if c = '\r' then '\n' else c) = true := by
  split
  · decide
  · exact sep

theorem isBoundary_unifyLineEnds {s : Text} (boundary : IsBoundary s) :
    IsBoundary (unifyLineEnds s) := by
  cases s with
  | nil => exact boundary
  | cons c rest =>
    have sep := isBoundary_cons.mp boundary
    rcases unifyLineEnds_cons_cases c rest with ⟨-, first, unified, -⟩ | ⟨-, unified, -⟩
    · obtain ⟨more, rfl⟩ := List.head?_eq_some_iff.mp first
      rw [unified, unifyLineEnds_cons_lineFeed]
      exact isBoundary_cons.mpr (by decide)
    · rw [unified]
      exact isBoundary_cons.mpr (isSeparator_unified sep)

theorem tokenize_unifyLineEnds (s : Text) : tokenize (unifyLineEnds s) = tokenize s := by
  induction s using text_induction with
  | nil => rfl
  | separator c rest sep ih =>
    rcases unifyLineEnds_cons_cases c rest with ⟨-, -, unified, -⟩ | ⟨-, unified, -⟩
    · rw [unified, ih, tokenize_cons_separator sep]
    · rw [unified, tokenize_cons_separator (isSeparator_unified sep), tokenize_cons_separator sep, ih]
  | run t rest solid boundary ih =>
    have free : '\r' ∉ t := fun member => absurd (solid.2 _ member) (by decide)
    have apart : ¬(t.getLast? = some '\r' ∧ rest.head? = some '\n') :=
      fun joined => free (List.mem_of_getLast? joined.1)
    rw [unifyLineEnds_append apart, (unifyLineEnds_of_not_mem free).1,
      tokenize_run solid (isBoundary_unifyLineEnds boundary), tokenize_run solid boundary, ih]

/-- A line feed stays where it is, and before it at most a carriage return is left out. -/
theorem unifyLineEnds_line (piece rest : Text) :
    ∃ front, tokenize front = tokenize piece ∧
      unifyLineEnds (piece ++ '\n' :: rest) = unifyLineEnds front ++ '\n' :: unifyLineEnds rest := by
  by_cases returns : piece.getLast? = some '\r'
  · obtain ⟨front, rfl⟩ := List.getLast?_eq_some_iff.mp returns
    have apart : ¬(front.getLast? = some '\r' ∧ ('\r' :: '\n' :: rest).head? = some '\n') := by
      simp
    have separates : ∀ c ∈ ['\r'], isSeparator c = true := List.forall_mem_singleton.mpr (by decide)
    refine ⟨front, (tokenize_append_right separates front).symm, ?_⟩
    rw [List.append_assoc, List.singleton_append, unifyLineEnds_append apart]
    rfl
  · have apart : ¬(piece.getLast? = some '\r' ∧ ('\n' :: rest).head? = some '\n') :=
      fun joined => returns joined.1
    exact ⟨piece, rfl, by rw [unifyLineEnds_append apart, unifyLineEnds_cons_lineFeed]⟩

end Text

/-- The tokens of the dice lines of a document, in order. -/
def diceTokens (text : Text) : List Text := (diceBodies (text.splitOn '\n')).flatMap tokenize

theorem diceTokens_append (before after : Text) :
    diceTokens (before ++ '\n' :: after) = diceTokens before ++ diceTokens after := by
  unfold diceTokens
  rw [List.splitOn_append_cons_self, diceBodies_append, List.flatMap_append]

theorem tokenize_pieceBody (piece : Text) : tokenize piece.pieceBody = tokenize piece := by
  have returns : ∀ c ∈ piece.pieceEnding, isSeparator c = true := by
    intro c member
    rw [Text.eq_of_mem_pieceEnding member]
    decide
  rw [← tokenize_append_right returns, Text.pieceBody_append_pieceEnding]

theorem diceTokens_of_piece {piece : Text} (whole : '\n' ∉ piece) :
    diceTokens piece = if isDiceLine piece then tokenize piece else [] := by
  unfold diceTokens
  have same := isDiceLine_congr (tokenize_pieceBody piece)
  rw [List.splitOn_eq_singleton whole]
  cases dice : isDiceLine piece with
  | true =>
    rw [diceBodies_dice (same.trans dice)]
    simp [diceBodies, tokenize_pieceBody]
  | false =>
    rw [diceBodies_other (same.trans dice)]
    rfl

/-- Where all tokens are spelled like dice, none is lost: lines without any have none to lose. -/
theorem diceTokens_of_tokens {s : Text} (all : ∀ t ∈ tokenize s, IsToken t) :
    diceTokens s = tokenize s := by
  have onPiece {piece : Text} (whole : '\n' ∉ piece) (all : ∀ t ∈ tokenize piece, IsToken t) :
      diceTokens piece = tokenize piece := by
    rw [diceTokens_of_piece whole]
    by_cases none : tokenize piece = []
    · simp [none]
    · rw [(isDiceLine_iff piece).mpr ⟨none, all⟩, if_pos rfl]
  induction s using Text.piece_induction with
  | last piece whole => exact onPiece whole all
  | line piece rest whole ih =>
    have parts := tokenize_append_separator (by decide : isSeparator '\n' = true) piece rest
    rw [parts] at all ⊢
    obtain ⟨first, later⟩ := List.forall_mem_append.mp all
    rw [diceTokens_append, onPiece whole first, ih later]

/-- Unifying line ends loses no dice: it breaks lines, but never inside of a token. -/
theorem diceTokens_sublist_unifyLineEnds (text : Text) :
    (diceTokens text).Sublist (diceTokens text.unifyLineEnds) := by
  have onPiece {piece unified : Text} (whole : '\n' ∉ piece) (same : tokenize unified = tokenize piece) :
      (diceTokens piece).Sublist (diceTokens unified) := by
    rw [diceTokens_of_piece whole]
    cases dice : isDiceLine piece with
    | true =>
      have all := ((isDiceLine_iff piece).mp dice).2
      rw [← same] at all
      rw [diceTokens_of_tokens all, same]
      simp
    | false => simp
  induction text using Text.piece_induction with
  | last piece whole => exact onPiece whole (Text.tokenize_unifyLineEnds piece)
  | line piece rest whole ih =>
    obtain ⟨front, same, unified⟩ := Text.unifyLineEnds_line piece rest
    have first := onPiece whole ((Text.tokenize_unifyLineEnds front).trans same)
    rw [unified, diceTokens_append, diceTokens_append]
    exact first.append ih

end InlineDice
