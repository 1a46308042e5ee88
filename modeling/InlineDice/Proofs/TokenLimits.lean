import InlineDice.Proofs.LineAnswers
import InlineDice.Proofs.RollCourse

namespace InlineDice

namespace Notation

/-- Zeros in front of a run of digits do not count for its value. -/
theorem ofDigitChars_significant (digits : Text) :
    Nat.ofDigitChars 10 (significant digits) 0 = Nat.ofDigitChars 10 digits 0 := by
  unfold significant
  induction digits with
  | nil => rfl
  | cons c digits ih =>
    by_cases zero : c = '0'
    · subst zero
      rw [List.dropWhile_cons_of_pos (by decide), ih, Nat.ofDigitChars_cons]
      rfl
    · rw [List.dropWhile_cons_of_neg (by simpa using zero)]

theorem pow_le_ofDigitChars {c : Char} (digit : c.isDigit = true) (nonzero : c ≠ '0')
    (rest : Text) : 10 ^ rest.length ≤ Nat.ofDigitChars 10 (c :: rest) 0 := by
  have lower := (isDigit_iff.mp digit).1
  have other : c.toNat ≠ 48 := fun same => nonzero (Char.ext (UInt32.toNat_inj.mp same))
  have zero : '0'.toNat = 48 := rfl
  have positive : 1 ≤ 10 * 0 + (c.toNat - '0'.toNat) := by omega
  rw [Nat.ofDigitChars_cons, Nat.ofDigitChars_eq_ofDigitChars_zero]
  exact (Nat.le_mul_of_pos_right _ positive).trans (Nat.le_add_right _ _)

/-- A run of digits of small value has few digits that count, however many zeros stand in front. -/
theorem length_significant_le {digits : Text} (all : ∀ c ∈ digits, c.isDigit = true) {k : Nat}
    (small : Nat.ofDigitChars 10 digits 0 < 10 ^ k) : (significant digits).length ≤ k := by
  rw [← ofDigitChars_significant] at small
  cases kept : significant digits with
  | nil => exact Nat.zero_le k
  | cons c rest =>
    have inRun : c ∈ digits := (List.dropWhile_sublist _).subset (kept ▸ List.mem_cons_self ..)
    have nonzero : c ≠ '0' := by
      have refused := List.head?_dropWhile_not (· == '0') digits
      have atHead : (digits.dropWhile (· == '0')).head? = some c := congrArg List.head? kept
      rw [atHead] at refused
      simpa using refused
    rw [kept] at small
    have powers := (pow_le_ofDigitChars (all c inRun) nonzero rest).trans_lt small
    exact (Nat.pow_lt_pow_iff_right (by decide)).mp powers

/-- No run of digits in a text is longer than any numeral that is read. -/
def HasShortRuns (s : Text) : Prop :=
  ∀ run, run <:+: s → (∀ c ∈ run, c.isDigit = true) → run.length ≤ numeralLimit

theorem HasShortRuns.of_infix {s t : Text} (short : HasShortRuns s) (inside : t <:+: s) :
    HasShortRuns t := fun run within digits => short run (within.trans inside) digits

theorem infix_of_mem_tokenize {s t : Text} (member : t ∈ tokenize s) : t <:+: s := by
  induction s using text_induction with
  | nil => simp [tokenize_nil] at member
  | separator c rest sep ih =>
    rw [tokenize_cons_separator sep] at member
    exact (ih member).trans (List.suffix_cons c rest).isInfix
  | run first rest solid boundary ih =>
    rw [tokenize_run solid boundary] at member
    rcases List.mem_cons.mp member with rfl | later
    · exact (List.prefix_append t rest).isInfix
    · exact (ih later).trans (List.suffix_append first rest).isInfix

/-- What the notation allows of a token: a count, if there is one, and faces within the limits, and a
processor, if there is one, that is known. -/
structure Spelling.IsWithinLimits (known : Char → Bool) (w : Spelling) : Prop where
  count : w.count = [] ∨
    1 ≤ Nat.ofDigitChars 10 w.count 0 ∧ Nat.ofDigitChars 10 w.count 0 ≤ maxDice
  faces : 1 ≤ Nat.ofDigitChars 10 w.faces 0 ∧ Nat.ofDigitChars 10 w.faces 0 ≤ maxFaces
  mark : ∀ c ∈ w.mark, known c = true

def IsWithinLimits (known : Char → Bool) (t : Text) : Prop :=
  ∃ w : Spelling, w.text = t ∧ w.IsWithinLimits known

/-- The token that a spelling stands for, whether its numbers keep within the limits or not. -/
def Spelling.token (w : Spelling) : Token where
  name := if w.count = [] then '1' :: w.text else w.text
  count := if w.count = [] then 1 else Nat.ofDigitChars 10 w.count 0
  faces := Nat.ofDigitChars 10 w.faces 0
  processor := w.mark

/-- The token that the parts of a text come to, whether its numbers keep within the limits or not. -/
def Parts.token (parts : Parts) (t : Text) : Token where
  name := if parts.count = [] then '1' :: t else t
  count := if parts.count = [] then 1 else Nat.ofDigitChars 10 parts.count 0
  faces := Nat.ofDigitChars 10 parts.faces 0
  processor := parts.rest.head?

theorem Parts.countValue_eq_ok_iff {parts : Parts} (t : Text) {n : Nat} :
    parts.countValue = .ok n ↔ parts.count.length ≤ numeralLimit ∧ (parts.token t).count = n := by
  by_cases missing : parts.count = []
  · simp [Parts.countValue, Parts.token, missing]
  · have given : parts.countValue = numeral parts.count := if_neg missing
    have counted : (parts.token t).count = Nat.ofDigitChars 10 parts.count 0 := if_neg missing
    rw [given, counted, numeral_eq_ok_iff]

variable {known : Char → Bool} {t : Text} {token : Token}

/-- What can be taken apart is read exactly when one character follows the faces at most, its numerals
are short enough to be read, its numbers keep within the limits and its processor is known. The checks
of size never refuse what the checks of value would let through. -/
theorem Parts.parse_eq_ok_iff {parts : Parts} (split : Parts.of? t = some parts) :
    Token.parse known t = .ok token ↔
      parts.rest.length ≤ 1 ∧ parts.count.length ≤ numeralLimit ∧
        parts.faces.length ≤ numeralLimit ∧
        rangeFlaw? (parts.token t).count (parts.token t).faces = none ∧
        (∀ c ∈ parts.rest.head?, known c = true) ∧ parts.token t = token := by
  obtain ⟨-, countDigits, facesDigits, -⟩ := Parts.of?_eq_some_iff.mp split
  rw [Token.parse_eq_ok_iff]
  constructor
  · rintro ⟨other, count, faces, again, sized, countRead, facesRead, ranged, holds, rfl⟩
    cases split.symm.trans again
    obtain ⟨countShort, rfl⟩ := (Parts.countValue_eq_ok_iff t).mp countRead
    obtain ⟨facesShort, rfl⟩ := numeral_eq_ok_iff.mp facesRead
    exact ⟨(Parts.sizeFlaw?_eq_none_iff.mp sized).1, countShort, facesShort, ranged, holds, rfl⟩
  · rintro ⟨single, countShort, facesShort, ranged, holds, rfl⟩
    obtain ⟨-, countHigh, -, facesHigh⟩ := rangeFlaw?_eq_none_iff.mp ranged
    -- A number within its limit has no more digits that count than the limit itself.
    have countFits : (significant parts.count).length ≤ (Nat.toDigits 10 maxDice).length := by
      have room : maxDice < 10 ^ (Nat.toDigits 10 maxDice).length := by decide
      by_cases missing : parts.count = []
      · rw [missing]
        decide
      · have counted : (parts.token t).count = Nat.ofDigitChars 10 parts.count 0 := if_neg missing
        rw [counted] at countHigh
        exact length_significant_le countDigits (countHigh.trans_lt room)
    have facesFit : (significant parts.faces).length ≤ (Nat.toDigits 10 maxFaces).length := by
      have room : maxFaces < 10 ^ (Nat.toDigits 10 maxFaces).length := by decide
      exact length_significant_le facesDigits (facesHigh.trans_lt room)
    exact ⟨parts, _, _, split, Parts.sizeFlaw?_eq_none_iff.mpr ⟨single, countFits, facesFit⟩,
      (Parts.countValue_eq_ok_iff t).mpr ⟨countShort, rfl⟩,
      numeral_eq_ok_iff.mpr ⟨facesShort, rfl⟩, ranged, holds, rfl⟩

/-- A spelled token is read exactly when its numerals are short enough to be read and its numbers keep
within the limits. -/
theorem Spelling.parse_eq_ok_iff (w : Spelling) :
    Token.parse known w.text = .ok token ↔
      w.count.length ≤ numeralLimit ∧ w.faces.length ≤ numeralLimit ∧ w.IsWithinLimits known ∧
        w.token = token := by
  have atMark : w.parts.rest.head? = w.mark := by
    simp only [parts]
    cases w.mark <;> rfl
  have single : w.parts.rest.length ≤ 1 := by
    simp only [parts]
    cases w.mark <;> simp
  have same : w.parts.token w.text = w.token := by
    rw [Parts.token, atMark]
    rfl
  have within : rangeFlaw? w.token.count w.token.faces = none ∧ (∀ c ∈ w.mark, known c = true) ↔
      w.IsWithinLimits known := by
    rw [rangeFlaw?_eq_none_iff]
    by_cases missing : w.count = []
    · have one : w.token.count = 1 := if_pos missing
      rw [one]
      constructor
      · rintro ⟨⟨-, -, faces⟩, holds⟩
        exact ⟨.inl missing, faces, holds⟩
      · rintro ⟨-, faces, holds⟩
        exact ⟨⟨le_rfl, by decide, faces⟩, holds⟩
    · have counted : w.token.count = Nat.ofDigitChars 10 w.count 0 := if_neg missing
      rw [counted]
      constructor
      · rintro ⟨⟨low, high, faces⟩, holds⟩
        exact ⟨.inr ⟨low, high⟩, faces, holds⟩
      · rintro ⟨count, faces, holds⟩
        obtain ⟨low, high⟩ := count.resolve_left missing
        exact ⟨⟨low, high, faces⟩, holds⟩
  rw [Parts.parse_eq_ok_iff w.of?_text, atMark, same, ← within]
  simp only [single, true_and, and_assoc]
  exact Iff.rfl

/-- What can be read and holds no separator is spelled like a token of the line grammar. -/
theorem isToken_of_parse (solid : IsSolid t) (read : Token.parse known t = .ok token) :
    IsToken t := by
  obtain ⟨parts, -, -, split, sized, -⟩ := Token.parse_eq_ok_iff.mp read
  exact isToken_of_parts solid split sized

theorem isReadable_iff_isWithinLimits (solid : IsSolid t) (short : HasShortRuns t) :
    IsReadable known t ↔ IsWithinLimits known t := by
  constructor
  · rintro ⟨token, read⟩
    obtain ⟨w, rfl⟩ := isToken_of_parse solid read
    exact ⟨w, rfl, (w.parse_eq_ok_iff.mp read).2.2.1⟩
  · rintro ⟨w, rfl, within⟩
    have countInside : w.count <:+: w.text := (List.prefix_append _ _).isInfix
    have facesInside : w.faces <:+: w.text := ⟨w.count ++ ['d'], w.mark.toList, by simp [Spelling.text]⟩
    exact ⟨w.token, w.parse_eq_ok_iff.mpr ⟨short _ countInside w.count_digits,
      short _ facesInside w.faces_digits, within, rfl⟩⟩

end Notation

open Notation

namespace Pipeline

theorem exists_tokens_iff {p : Pipeline} {text : Text} :
    (∃ tokens, p.tokens text = .ok tokens) ↔
      tokenize text ≠ [] ∧ ∀ t ∈ tokenize text, IsReadable p.registry.contains t := by
  rw [forall_isReadable_iff]
  constructor
  · rintro ⟨tokens, read⟩
    obtain ⟨parsed, nonempty⟩ := tokens_eq_ok_iff.mp read
    refine ⟨?_, tokens, parsed⟩
    intro none
    rw [none] at parsed
    cases parsed
    exact nonempty rfl
  · rintro ⟨nonempty, tokens, parsed⟩
    exact ⟨tokens, (tokens_eq_mapM nonempty).trans parsed⟩

/-- A text whose tokens can all be read is a dice line. -/
theorem isDiceLine_of_tokens {p : Pipeline} {text : Text} {tokens : List Token}
    (read : p.tokens text = .ok tokens) : isDiceLine text = true := by
  obtain ⟨nonempty, readable⟩ := exists_tokens_iff.mp ⟨tokens, read⟩
  refine (isDiceLine_iff text).mpr ⟨nonempty, fun t member => ?_⟩
  obtain ⟨token, parsed⟩ := readable t member
  exact isToken_of_parse (isSolid_of_mem_tokenize member) parsed

/-- Rolling a text without asking the recognizer first accepts what the recognizer does, within the
limits: with short runs of digits all tokens can be read exactly when the text is recognized and each
of its tokens keeps within them. No other text ever comes to a report. -/
theorem rolled_iff_recognized_within_limits {σ : Type} [RandomSource σ] (p : Pipeline)
    (text : Text) :
    ((∃ tokens, p.tokens text = .ok tokens) ↔
      tokenize text ≠ [] ∧ ∀ t ∈ tokenize text, IsReadable p.registry.contains t) ∧
    (HasShortRuns text →
      (tokenize text ≠ [] ∧ (∀ t ∈ tokenize text, IsReadable p.registry.contains t) ↔
        (recognize text).isSome = true ∧
          ∀ t ∈ tokenize text, IsWithinLimits p.registry.contains t)) ∧
    ∀ (source : σ) (report : Text), ((p.roll text).run source).outcome = .ok report →
      (recognize text).isSome = true := by
  have recognized {tokens : List Token} (read : p.tokens text = .ok tokens) :
      (recognize text).isSome = true := by
    rw [recognize_isSome, isDiceLine_of_tokens read]
  refine ⟨exists_tokens_iff, ?_, ?_⟩
  · intro short
    have each : ∀ t ∈ tokenize text,
        (IsReadable p.registry.contains t ↔ IsWithinLimits p.registry.contains t) := fun t member =>
      isReadable_iff_isWithinLimits (isSolid_of_mem_tokenize member)
        (short.of_infix (infix_of_mem_tokenize member))
    constructor
    · rintro ⟨nonempty, readable⟩
      obtain ⟨tokens, read⟩ := exists_tokens_iff.mpr ⟨nonempty, readable⟩
      exact ⟨recognized read, fun t member => (each t member).mp (readable t member)⟩
    · rintro ⟨matched, within⟩
      rw [recognize_isSome] at matched
      exact ⟨tokenize_ne_nil_of_isDiceLine matched,
        fun t member => (each t member).mpr (within t member)⟩
  · intro source report ran
    obtain ⟨tokens, throws, read, -⟩ := roll_eq_ok ran
    exact recognized read

theorem rolled_iff_recognized_within_limits_zeros :
    HasShortRuns ",0007d06+ d20\t".toList ∧
      (∀ t ∈ tokenize ",0007d06+ d20\t".toList, IsWithinLimits default.registry.contains t) ∧
      ∃ report, ((default.roll ",0007d06+ d20\t".toList).run Lowest.lowest).outcome = .ok report ∧
        (recognize ",0007d06+ d20\t".toList).isSome = true := by
  have short : HasShortRuns ",0007d06+ d20\t".toList := fun run inside _ =>
    inside.length_le.trans (by decide)
  have read : default.tokens ",0007d06+ d20\t".toList =
      .ok [⟨"0007d06+".toList, 7, 6, some '+'⟩, ⟨"1d20".toList, 1, 20, none⟩] := by rfl
  have rolled :
      ((default.roll ",0007d06+ d20\t".toList).run Lowest.lowest).outcome.toBool = true := by
    decide +kernel
  obtain ⟨report, ran⟩ := toBool_eq_true_iff.mp rolled
  obtain ⟨goesOn, within, recognized⟩ := rolled_iff_recognized_within_limits (σ := Lowest) default
    ",0007d06+ d20\t".toList
  exact ⟨short, ((within short).mp (goesOn.mp ⟨_, read⟩)).2, report, ran, recognized _ report ran⟩

end Pipeline

end InlineDice
