import InlineDice.Proofs.TrueReports
import InlineDice.Proofs.UnifiedLineEnds
import Mathlib.Data.List.Flatten

namespace InlineDice

open Notation Text

section

variable {x : Char}

namespace Text

theorem isBlank_of_isLineEnd (ends : isLineEnd x = true) : InlineDice.isBlank x = true := by
  rcases isLineEnd_iff.mp ends with rfl | rfl <;> decide

theorem count_padRight (ends : isLineEnd x = true) (width : Int) (s : Text) :
    (padRight width s).count x = s.count x := by
  have fill : ' ' ≠ x := by
    rintro rfl
    exact absurd ends (by decide)
  simp [padRight, List.count_replicate, fill]

end Text

namespace Report

theorem count_column (ends : isLineEnd x = true) {mark : String} (bare : x ∉ mark.toList)
    (width : Int) (entry : Text) : (column mark width entry).count x = entry.count x := by
  have gap : x ∉ " :: ".toList := by
    rcases isLineEnd_iff.mp ends with rfl | rfl <;> decide
  unfold column
  rw [List.count_append, List.count_append, List.count_eq_zero.mpr bare,
    List.count_eq_zero.mpr gap, count_padRight ends]
  omega

theorem count_header (ends : isLineEnd x = true) (plural : Bool) : (header plural).count x = 0 := by
  refine List.count_eq_zero.mpr ?_
  rcases isLineEnd_iff.mp ends with rfl | rfl <;> cases plural <;> decide

theorem count_bulletLine (ends : isLineEnd x = true) (width : Int) (name : Text) (rolls : List Int) :
    (bulletLine width name rolls).count x = name.count x := by
  have marks : x ∉ "- ".toList ∧ x ∉ "[ ".toList ∧ x ∉ " ]".toList := by
    rcases isLineEnd_iff.mp ends with rfl | rfl <;> decide
  unfold bulletLine
  rw [List.count_append, List.count_append, List.count_append, count_column ends marks.1,
    List.count_eq_zero.mpr marks.2.1, List.count_eq_zero.mpr marks.2.2,
    List.count_eq_zero.mpr (not_mem_join_ofInt ends rolls)]
  omega

theorem count_aggregateLine (ends : isLineEnd x = true) (width : Int) (label : Text)
    (aggregate : Int) : (aggregateLine width label aggregate).count x = label.count x := by
  have mark : x ∉ "  ".toList := by
    rcases isLineEnd_iff.mp ends with rfl | rfl <;> decide
  unfold aggregateLine
  rw [List.count_append, count_column ends mark, List.count_eq_zero.mpr (not_mem_ofInt ends aggregate)]
  omega

end Report

end

namespace Pipeline

/-- What breaks lines in the report on a token: a line feed for each of its lines, and what the label
holds where a sum is asked for. -/
def breaks (p : Pipeline) (token : Token) : Text :=
  '\n' :: if token.processor = some '+' then p.label ++ ['\n'] else []

/-- The breaks of a token that is yet to be read. -/
def breaksOf (p : Pipeline) (t : Text) : Text :=
  (Token.parse p.registry.contains t).toOption.elim ['\n'] p.breaks

theorem lineFeed_mem_breaksOf (p : Pipeline) (t : Text) : '\n' ∈ p.breaksOf t := by
  unfold breaksOf
  cases (Token.parse p.registry.contains t).toOption <;> exact List.mem_cons_self

theorem flatMap_breaks {p : Pipeline} {ts : List Text} {tokens : List Token}
    (parsed : List.Forall₂ (fun t token => Token.parse p.registry.contains t = .ok token) ts tokens) :
    tokens.flatMap p.breaks = ts.flatMap p.breaksOf := by
  induction parsed with
  | nil => rfl
  | cons first _ ih =>
    rw [List.flatMap_cons, List.flatMap_cons, ih, breaksOf, first]
    rfl

variable {σ : Type} [RandomSource σ] {p : Pipeline} {x : Char}

theorem count_detailLines (ends : isLineEnd x = true) {token : Token} {throw : Throw}
    (throws : token.Throws .builtin throw)
    (known : ∀ c ∈ token.processor, Registry.builtin.contains c = true) (whole : x ∉ token.name)
    (width : Int) :
    ((Report.detailLines p.label width throw.instruction).flatMap (· ++ ['\n'])).count x =
      (p.breaks token).count x := by
  have bullet := Report.count_bulletLine ends width token.name (Account.ofThrow token throw).shown
  rw [List.count_eq_zero.mpr whole] at bullet
  have bare : (Account.ofThrow token throw).token = token := rfl
  rw [← Account.instruction_ofThrow throws known, Account.detailLines_instruction, Account.lines,
    bare, breaks, List.count_cons]
  by_cases total : token.processor = some '+'
  · have aggregate := Report.count_aggregateLine ends width p.label
      (Account.ofThrow token throw).shown.sum
    simp only [if_pos total, List.flatMap_cons, List.flatMap_nil, List.append_nil,
      List.count_append, bullet, aggregate, List.count_cons, List.count_nil]
    omega
  · simp only [if_neg total, List.flatMap_cons, List.flatMap_nil, List.append_nil,
      List.count_append, bullet, List.count_cons, List.count_nil]
    omega

theorem count_details (ends : isLineEnd x = true) {tokens : List Token} {throws : List Throw}
    (each : List.Forall₂ (Token.Throws .builtin) tokens throws)
    (known : ∀ token ∈ tokens, ∀ c ∈ token.processor, Registry.builtin.contains c = true)
    (whole : ∀ token ∈ tokens, x ∉ token.name) (width : Int) :
    (((throws.map Throw.instruction).flatMap (Report.detailLines p.label width)).flatMap
      (· ++ ['\n'])).count x = (tokens.flatMap p.breaks).count x := by
  induction each with
  | nil => rfl
  | cons first _ ih =>
    obtain ⟨knownFirst, knownLater⟩ := List.forall_mem_cons.mp known
    obtain ⟨wholeFirst, wholeLater⟩ := List.forall_mem_cons.mp whole
    rw [List.map_cons, List.flatMap_cons, List.flatMap_append, List.count_append,
      count_detailLines ends first knownFirst wholeFirst, ih knownLater wholeLater,
      List.flatMap_cons, List.count_append]

/-- A report has the line ends that its tokens bring, and that of its header. -/
theorem count_roll (builtin : p.registry = .builtin) (ends : isLineEnd x = true) {text report : Text}
    {source : σ} (ran : ((p.roll text).run source).outcome = .ok report) :
    report.count x = ('\n' :: (tokenize text).flatMap p.breaksOf).count x := by
  obtain ⟨tokens, throws, read, thrown, -, rfl⟩ := roll_eq_ok ran
  have sound := isSound_of_tokens read
  have whole : ∀ token ∈ tokens, x ∉ token.name := fun token member =>
    (isName_of_tokens read token member).not_mem (isBlank_of_isLineEnd ends)
  rw [← flatMap_breaks (mapM_eq_ok_iff.mp (tokens_eq_ok_iff.mp read).1)]
  rw [builtin] at thrown sound
  have details := count_details (p := p) ends thrown.each
    (fun token member => (sound token member).known_processor) whole (p.layout tokens).nameWidth
  rw [Report.render, Report.lines, List.flatMap_cons, List.count_append, details, List.count_append,
    Report.count_header ends, List.count_cons (a := x) (b := '\n')]
  simp only [List.count_cons, List.count_nil]
  omega

end Pipeline

/-- What is left of a piece when the dice are taken out. -/
def outsideDice (piece : Text) : Text := if isDiceLine piece then pieceEnding piece else piece

/-- What is left of a document when its dice lines are taken out, but for their endings. -/
def withoutDice (text : Text) : Text := ['\n'].intercalate ((text.splitOn '\n').map outsideDice)

theorem withoutDice_of_piece {piece : Text} (whole : '\n' ∉ piece) :
    withoutDice piece = outsideDice piece := by
  simp [withoutDice, List.splitOn_eq_singleton whole]

theorem mem_of_mem_outsideDice {piece : Text} {c : Char} (member : c ∈ outsideDice piece) :
    c ∈ piece := by
  unfold outsideDice at member
  split at member
  · rw [← pieceBody_append_pieceEnding piece]
    exact List.mem_append_right _ member
  · exact member

theorem withoutDice_line {piece : Text} (whole : '\n' ∉ piece) (rest : Text) :
    withoutDice (piece ++ '\n' :: rest) = withoutDice piece ++ '\n' :: withoutDice rest := by
  obtain ⟨next, more, split⟩ := List.exists_cons_of_ne_nil (List.splitOn_ne_nil '\n' rest)
  rw [withoutDice_of_piece whole]
  simp [withoutDice, List.splitOn_append_cons_self_of_not_mem whole, split]

theorem withoutDice_append (before after : Text) :
    withoutDice (before ++ '\n' :: after) = withoutDice before ++ '\n' :: withoutDice after := by
  induction before using piece_induction with
  | last piece whole => exact withoutDice_line whole after
  | line piece rest whole ih =>
    rw [List.append_assoc, List.cons_append, withoutDice_line whole, ih, withoutDice_line whole,
      List.append_assoc, List.cons_append]

theorem count_lineFeed_withoutDice (text : Text) :
    (withoutDice text).count '\n' = text.count '\n' := by
  have onPiece {piece : Text} (whole : '\n' ∉ piece) : '\n' ∉ withoutDice piece := by
    rw [withoutDice_of_piece whole]
    exact fun member => whole (mem_of_mem_outsideDice member)
  induction text using piece_induction with
  | last piece whole => rw [List.count_eq_zero.mpr whole, List.count_eq_zero.mpr (onPiece whole)]
  | line piece rest whole ih =>
    rw [withoutDice_line whole, List.count_append, List.count_append, List.count_cons,
      List.count_cons, ih, List.count_eq_zero.mpr whole, List.count_eq_zero.mpr (onPiece whole)]

theorem mem_of_mem_withoutDice {text : Text} {c : Char} (member : c ∈ withoutDice text) : c ∈ text := by
  induction text using piece_induction with
  | last piece whole =>
    rw [withoutDice_of_piece whole] at member
    exact mem_of_mem_outsideDice member
  | line piece rest whole ih =>
    rw [withoutDice_line whole, withoutDice_of_piece whole] at member
    rcases List.mem_append.mp member with first | later
    · exact List.mem_append_left _ (mem_of_mem_outsideDice first)
    · refine List.mem_append_right _ (List.mem_cons.mpr ?_)
      exact (List.mem_cons.mp later).imp_right ih

theorem return_mem_withoutDice (text : Text) : '\r' ∈ withoutDice (text ++ ['\r']) := by
  induction text using piece_induction with
  | last piece whole =>
    rw [withoutDice_of_piece (by simp [whole]), outsideDice]
    split
    · simp [pieceEnding]
    · simp
  | line piece rest whole ih =>
    rw [List.append_assoc, List.cons_append, withoutDice_line whole]
    exact List.mem_append_right _ (List.mem_cons_of_mem _ ih)

/-- A carriage return that stands before a line feed stays where it is, below dice or not. -/
theorem return_mem_withoutDice_of_loneReturns {text : Text} (none : text.loneReturns = 0)
    (member : '\r' ∈ text) : '\r' ∈ withoutDice text := by
  obtain ⟨before, after, rfl⟩ : ∃ before after, text = before ++ '\r' :: '\n' :: after := by
    induction text with
    | nil => cases member
    | cons c rest ih =>
      rcases unifyLineEnds_cons_cases c rest with ⟨rfl, first, -⟩ | ⟨-, -, lone⟩
      · obtain ⟨more, rfl⟩ := List.head?_eq_some_iff.mp first
        exact ⟨[], more, rfl⟩
      · have later : loneReturns rest = 0 := by omega
        have other : c ≠ '\r' := by
          rintro rfl
          rw [if_pos rfl] at lone
          omega
        obtain ⟨before, after, same⟩ := ih later (List.mem_of_ne_of_mem (Ne.symm other) member)
        exact ⟨c :: before, after, by rw [same, List.cons_append]⟩
  have split : before ++ '\r' :: '\n' :: after = (before ++ ['\r']) ++ '\n' :: after := by simp
  rw [split, withoutDice_append]
  exact List.mem_append_left _ (return_mem_withoutDice before)

/-- Fewer elements have less, where each of them has some. -/
theorem eq_of_sublist_of_count {α β : Type} [BEq β] [LawfulBEq β] {f : α → List β} {c : β}
    (each : ∀ a, c ∈ f a) {few many : List α} (sub : few.Sublist many)
    (same : (few.flatMap f).count c = (many.flatMap f).count c) : few = many := by
  induction sub with
  | slnil => rfl
  | cons a sub ih =>
    have fewer := (sub.flatMap f).count_le c
    have some := List.count_pos_iff.mpr (each a)
    rw [List.flatMap_cons, List.count_append] at same
    omega
  | cons_cons a sub ih =>
    rw [List.flatMap_cons, List.flatMap_cons, List.count_append, List.count_append] at same
    rw [ih (by omega)]

theorem count_intercalate {α : Type} [BEq α] (x : α) (sep : List α) (parts : List (List α)) :
    (sep.intercalate parts).count x =
      (parts.map (List.count x)).sum + (parts.length - 1) * sep.count x := by
  induction parts with
  | nil => simp
  | cons part parts ih =>
    cases parts with
    | nil => simp
    | cons next parts =>
      have joined : sep.intercalate (part :: next :: parts) =
          part ++ sep ++ sep.intercalate (next :: parts) := by simp
      rw [joined, List.count_append, List.count_append, ih]
      simp only [List.map_cons, List.sum_cons, List.length_cons]
      rw [Nat.add_sub_cancel, Nat.add_sub_cancel, Nat.succ_mul]
      omega

namespace Pipeline

variable {σ : Type} [RandomSource σ] {p : Pipeline} {strict : Bool} {x : Char}

theorem count_expandLine (builtin : p.registry = .builtin) (ends : isLineEnd x = true) {piece : Text}
    (whole : '\n' ∉ piece) {source : σ} {replacement : Option Text}
    (ran : ((p.expandLine strict piece).run source).outcome = .ok replacement) :
    (replacement.getD piece).count x =
      ((diceTokens piece).flatMap p.breaksOf).count x + (outsideDice piece).count x := by
  rw [diceTokens_of_piece whole, outsideDice, ← isDiceLine_congr (tokenize_pieceBody piece)]
  cases dice : isDiceLine (pieceBody piece) with
  | true =>
    rw [expandLine_dice whole dice] at ran
    obtain ⟨report, rolled, rfl⟩ := Play.run_map_eq_ok_iff.mp ran
    obtain ⟨front, rfl⟩ := List.getLast?_eq_some_iff.mp (getLast?_of_roll rolled)
    have counted := count_roll builtin ends rolled
    rw [tokenize_pieceBody, List.count_append, List.count_cons, List.count_cons,
      List.count_nil] at counted
    rw [if_pos rfl, if_pos rfl, Option.getD_some, List.dropLast_concat, List.count_append]
    omega
  | false =>
    rw [expandLine_other whole dice] at ran
    split at ran
    · cases ran
    · cases ran
      simp

theorem count_pieces (builtin : p.registry = .builtin) (ends : isLineEnd x = true)
    {pieces : List Text} {replacements : List (Option Text)}
    (whole : ∀ piece ∈ pieces, '\n' ∉ piece)
    (came : List.Forall₂ (fun piece replacement => ∃ source : σ,
      ((p.expandLine strict piece).run source).outcome = .ok replacement) pieces replacements) :
    ((List.zipWith (fun piece replacement => replacement.getD piece) pieces replacements).map
      (List.count x)).sum = (((diceBodies pieces).flatMap tokenize).flatMap p.breaksOf).count x +
        ((pieces.map outsideDice).map (List.count x)).sum := by
  induction came with
  | nil => rfl
  | cons first _ ih =>
    obtain ⟨source, ran⟩ := first
    obtain ⟨wholeFirst, wholeLater⟩ := List.forall_mem_cons.mp whole
    have counted := count_expandLine builtin ends wholeFirst ran
    rw [diceTokens, List.splitOn_eq_singleton wholeFirst] at counted
    rw [← List.singleton_append, diceBodies_append, List.flatMap_append, List.flatMap_append,
      List.count_append, List.singleton_append, List.zipWith_cons_cons, List.map_cons, List.sum_cons,
      List.map_cons, List.map_cons, List.sum_cons, counted, ih wholeLater]
    omega

/-- An expanded document has the line ends that its dice bring, and those it had outside of dice. -/
theorem count_expand (builtin : p.registry = .builtin) (ends : isLineEnd x = true) {text : Text}
    {source : σ} {out : Expanded} (ran : ((p.expand strict text).run source).outcome = .ok out) :
    out.text.count x =
      ((diceTokens text).flatMap p.breaksOf).count x + (withoutDice text).count x := by
  rcases pieces : ((text.splitOn '\n').mapM (p.expandLine strict)).run source with
    ⟨fault | replacements, rest, draws, notes⟩
  · rw [expand_of_error pieces] at ran
    cases ran
  · rw [expand_of_ok pieces] at ran
    cases ran
    have whole := @lineFeed_not_mem_of_mem_splitOn text
    have came := Play.run_mapM_forall₂ pieces
    have parts := count_pieces builtin ends whole came
    have length := came.length_eq
    rw [Expanded.ofPieces, withoutDice, diceTokens, count_intercalate, count_intercalate, parts]
    simp only [List.length_zipWith, List.length_map]
    rw [← length, Nat.min_self, Nat.add_assoc]

/-- Unifying line ends first always shows in what comes out, if there is a carriage return at all: alone
it becomes a line feed, and before a line feed it is lost. How the dice fall makes no difference. -/
theorem return_not_mem_of_expand {τ : Type} [RandomSource τ] (builtin : p.registry = .builtin)
    {text : Text} {source : σ} {out : Expanded}
    (ran : ((p.expand strict text).run source).outcome = .ok out) {again : Bool} {other : τ}
    {unified : Expanded}
    (ranUnified : ((p.expand again (unifyLineEnds text)).run other).outcome = .ok unified)
    (same : unified.text = out.text) : '\r' ∉ text := by
  intro member
  have feeds := count_expand builtin (by decide : isLineEnd '\n' = true) ran
  have unifiedFeeds := count_expand builtin (by decide : isLineEnd '\n' = true) ranUnified
  have returns := count_expand builtin (by decide : isLineEnd '\r' = true) ran
  have unifiedReturns := count_expand builtin (by decide : isLineEnd '\r' = true) ranUnified
  rw [same, count_lineFeed_withoutDice, count_lineFeed_unifyLineEnds] at unifiedFeeds
  rw [count_lineFeed_withoutDice] at feeds
  have dice := diceTokens_sublist_unifyLineEnds text
  have fewer := (dice.flatMap p.breaksOf).count_le '\n'
  -- Each die that unifying adds and each lone return would bring line feeds of their own.
  have lone : loneReturns text = 0 := by omega
  have sameFeeds : ((diceTokens text).flatMap p.breaksOf).count '\n' =
      ((diceTokens (unifyLineEnds text)).flatMap p.breaksOf).count '\n' := by omega
  have sameDice := eq_of_sublist_of_count p.lineFeed_mem_breaksOf dice sameFeeds
  have kept : '\r' ∈ withoutDice text := return_mem_withoutDice_of_loneReturns lone member
  have lost : '\r' ∉ withoutDice (unifyLineEnds text) := fun left =>
    return_not_mem_unifyLineEnds text (mem_of_mem_withoutDice left)
  rw [same, ← sameDice, List.count_eq_zero.mpr lost] at unifiedReturns
  have some := List.count_pos_iff.mpr kept
  omega

end Pipeline

end InlineDice
