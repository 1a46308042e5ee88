import InlineDice.Proofs.TokenSpelling
import InlineDice.Proofs.TrimmedTexts

namespace InlineDice.Notation

theorem isDigit_eq_false_of_isSeparator {c : Char} (sep : isSeparator c = true) :
    c.isDigit = false := by
  by_contra digit
  rw [isSeparator_eq_false_of_isDigit (by simpa using digit)] at sep
  contradiction

namespace Progress

theorem next_gap_of_isComplete {q : Progress} (complete : q.isComplete = true) {c : Char}
    (sep : isSeparator c = true) : next q c = gap := by
  have noDigit := isDigit_eq_false_of_isSeparator sep
  cases q <;> simp [isComplete, next, sep, noDigit] at complete ⊢

/-- A separator in the middle of a token refuses the line. Only the start of the line, where no
token has begun, is incomplete and goes on. -/
theorem next_refused_of_separator {q : Progress} (incomplete : q.isComplete = false)
    (begun : q ≠ start) {c : Char} (sep : isSeparator c = true) : next q c = refused := by
  have noDigit := isDigit_eq_false_of_isSeparator sep
  have notD : c ≠ 'd' := by
    rintro rfl
    rw [isSeparator_d] at sep
    contradiction
  cases q <;> simp_all [isComplete, next, opening]

theorem next_ne_start {q : Progress} (begun : q ≠ start) (c : Char) : next q c ≠ start := by
  unfold next opening
  cases q with
  | start => exact absurd rfl begun
  | refused => exact begun
  | _ => dsimp only; split_ifs <;> simp

theorem foldl_ne_start {q : Progress} (begun : q ≠ start) (s : Text) : s.foldl next q ≠ start := by
  induction s generalizing q with
  | nil => exact begun
  | cons c s ih => exact ih (next_ne_start begun c)

/-- Past a finished token a boundary is read as in a gap. -/
theorem isComplete_foldl_boundary {q : Progress} (complete : q.isComplete = true) {rest : Text}
    (boundary : IsBoundary rest) :
    (rest.foldl next q).isComplete = (rest.foldl next gap).isComplete := by
  cases rest with
  | nil => exact complete
  | cons c rest =>
    have sep := isBoundary_cons.mp boundary
    rw [List.foldl_cons, List.foldl_cons, next_gap_of_isComplete complete sep,
      next_gap_of_isComplete (by rfl : gap.isComplete = true) sep]

theorem not_isComplete_foldl_boundary {q : Progress} (incomplete : q.isComplete = false)
    (begun : q ≠ start) {rest : Text} (boundary : IsBoundary rest) :
    (rest.foldl next q).isComplete = false := by
  cases rest with
  | nil => exact incomplete
  | cons c rest =>
    rw [List.foldl_cons, next_refused_of_separator incomplete begun (isBoundary_cons.mp boundary),
      foldl_refused]
    rfl

/-- Reading a token and what follows it at a boundary. -/
theorem isComplete_foldl_run {q : Progress} (atOpening : q = start ∨ q = gap) {t rest : Text}
    (solid : IsSolid t) (boundary : IsBoundary rest) :
    ((t ++ rest).foldl next q).isComplete = true ↔
      IsToken t ∧ (rest.foldl next gap).isComplete = true := by
  rw [List.foldl_append, foldl_opening atOpening solid, ← isComplete_iff_isToken solid]
  cases ended : (t.foldl next count).isComplete with
  | true => simp [isComplete_foldl_boundary ended boundary]
  | false =>
    have begun := foldl_ne_start (by simp : count ≠ start) t
    simp [not_isComplete_foldl_boundary ended begun boundary]

theorem isComplete_gap_iff (s : Text) :
    (s.foldl next gap).isComplete = true ↔ ∀ t ∈ tokenize s, IsToken t := by
  induction s using text_induction with
  | nil => simp [tokenize_nil, isComplete]
  | separator c rest sep ih =>
    have step : next gap c = gap := by simp [next, sep]
    rw [List.foldl_cons, step, tokenize_cons_separator sep, ih]
  | run t rest solid boundary ih =>
    rw [isComplete_foldl_run (.inr rfl) solid boundary, tokenize_run solid boundary, ih,
      List.forall_mem_cons]

end Progress

open Progress in
/-- A dice line is a line with tokens of which each is spelled like a dice token. -/
theorem isDiceLine_iff (s : Text) :
    isDiceLine s = true ↔ tokenize s ≠ [] ∧ ∀ t ∈ tokenize s, IsToken t := by
  unfold isDiceLine
  induction s using text_induction with
  | nil => simp [tokenize_nil, isComplete]
  | separator c rest sep ih =>
    have step : next start c = start := by simp [next, sep]
    rw [List.foldl_cons, step, tokenize_cons_separator sep, ih]
  | run t rest solid boundary _ =>
    rw [isComplete_foldl_run (.inl rfl) solid boundary, tokenize_run solid boundary,
      isComplete_gap_iff, List.forall_mem_cons]
    simp

theorem recognize_isSome (s : Text) : (recognize s).isSome = isDiceLine s := by
  unfold recognize
  split <;> simp_all

theorem recognize_eq_none_iff {s : Text} : recognize s = none ↔ isDiceLine s = false := by
  rw [← Option.not_isSome_iff_eq_none, recognize_isSome, Bool.not_eq_true]

theorem recognize_eq_some_iff_trim {s m : Text} :
    recognize s = some m ↔ isDiceLine s = true ∧ s.trim isSeparator = m := by
  unfold recognize
  split <;> simp_all

theorem tokenize_of_isCore {s core : Text} (isCore : Text.IsCore isSeparator s core) :
    tokenize core = tokenize s := by
  obtain ⟨lead, trail, rfl, leading, trailing, -, -⟩ := isCore
  rw [tokenize_append_right trailing, tokenize_append_left leading]

theorem tokenize_trim (s : Text) : tokenize (s.trim isSeparator) = tokenize s :=
  tokenize_of_isCore (Text.trim_isCore isSeparator s)

/-- Whether a text is a dice line hangs on its tokens only. -/
theorem isDiceLine_congr {s t : Text} (same : tokenize s = tokenize t) :
    isDiceLine s = isDiceLine t := by
  rw [Bool.eq_iff_iff, isDiceLine_iff, isDiceLine_iff, same]

theorem tokenize_ne_nil_of_isDiceLine {s : Text} (dice : isDiceLine s = true) : tokenize s ≠ [] :=
  ((isDiceLine_iff s).mp dice).1

theorem core_ne_nil {s : Text} (dice : isDiceLine s = true) : s.trim isSeparator ≠ [] := by
  intro empty
  have tokens := tokenize_ne_nil_of_isDiceLine dice
  rw [← tokenize_trim, empty, tokenize_nil] at tokens
  exact tokens rfl

/-- The recognizer and the tokenizer agree on every line, and what is recognized is the line
without the separators around it: the same tokens, recognized again as they stand. -/
theorem recognize_agrees_with_tokenize (s : Text) :
    ((recognize s).isSome = true ↔ tokenize s ≠ [] ∧ ∀ t ∈ tokenize s, IsToken t) ∧
      ∀ m ∈ recognize s, Text.IsCore isSeparator s m ∧ tokenize m = tokenize s ∧
        recognize m = some m := by
  refine ⟨by rw [recognize_isSome, isDiceLine_iff], ?_⟩
  intro m matched
  obtain ⟨dice, rfl⟩ := recognize_eq_some_iff_trim.mp matched
  have isCore := Text.trim_isCore isSeparator s
  obtain ⟨-, -, -, -, -, first, last⟩ := id isCore
  have again : Text.IsCore isSeparator (s.trim isSeparator) (s.trim isSeparator) :=
    ⟨[], [], by simp, by simp, by simp, first, last⟩
  refine ⟨isCore, tokenize_trim s, recognize_eq_some_iff_trim.mpr ⟨?_, ?_⟩⟩
  · rw [isDiceLine_congr (tokenize_trim s), dice]
  · exact again.trim_eq (core_ne_nil dice)

theorem recognize_agrees_with_tokenize_padded :
    recognize " ,2d6, 1d4+\t".toList = some "2d6, 1d4+".toList ∧
      tokenize "2d6, 1d4+".toList = tokenize " ,2d6, 1d4+\t".toList := by
  have matched : recognize " ,2d6, 1d4+\t".toList = some "2d6, 1d4+".toList := by decide
  exact ⟨matched, ((recognize_agrees_with_tokenize _).2 _ matched).2.1⟩

end InlineDice.Notation
