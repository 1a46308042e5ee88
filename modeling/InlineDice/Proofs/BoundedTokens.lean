import InlineDice.Proofs.TokenLimits

namespace InlineDice.Notation

/-- Digits that stand for a number from one up to a limit. Zeros in front do not matter. -/
structure IsNumeralOf (digits : Text) (limit n : Nat) : Prop where
  nonempty : digits ≠ []
  all_digits : ∀ c ∈ digits, c.isDigit = true
  value : Nat.ofDigitChars 10 digits 0 = n
  one_le : 1 ≤ n
  le_limit : n ≤ limit

/-- The bounded language of tokens, and what each of its texts stands for: a count of dice, which may
be missing, a `d`, the faces, and one character that is no digit at most. Without a count there is one
die, and the name says so. -/
inductive Denotes : Text → Token → Prop
  | counted {dice sides : Text} {count faces : Nat} {mark : Option Char}
      (counts : IsNumeralOf dice 1000 count) (dies : IsNumeralOf sides 1000000 faces)
      (free : ∀ c ∈ mark, c.isDigit = false) :
      Denotes (dice ++ 'd' :: (sides ++ mark.toList))
        ⟨dice ++ 'd' :: (sides ++ mark.toList), count, faces, mark⟩
  | single {sides : Text} {faces : Nat} {mark : Option Char}
      (dies : IsNumeralOf sides 1000000 faces) (free : ∀ c ∈ mark, c.isDigit = false) :
      Denotes ('d' :: (sides ++ mark.toList)) ⟨'1' :: 'd' :: (sides ++ mark.toList), 1, faces, mark⟩

variable {t : Text} {token : Token} {known : Char → Bool}

theorem Denotes.exists_parts (denotes : Denotes t token) :
    ∃ parts, Parts.of? t = some parts ∧ parts.rest.length ≤ 1 ∧
      rangeFlaw? (parts.token t).count (parts.token t).faces = none ∧ parts.token t = token := by
  have single (mark : Option Char) : mark.toList.length ≤ 1 := by cases mark <;> simp
  cases denotes with
  | @counted dice sides count faces mark counts dies free =>
    have split : Parts.of? (dice ++ 'd' :: (sides ++ mark.toList)) =
        some ⟨dice, sides, mark.toList⟩ := Parts.of?_eq_some_iff.mpr
      ⟨rfl, counts.all_digits, dies.all_digits, dies.nonempty, by simpa using free⟩
    have same : (⟨dice, sides, mark.toList⟩ : Parts).token (dice ++ 'd' :: (sides ++ mark.toList)) =
        ⟨dice ++ 'd' :: (sides ++ mark.toList), count, faces, mark⟩ := by
      simp [Parts.token, counts.nonempty, counts.value, dies.value]
    refine ⟨_, split, single mark, ?_, same⟩
    rw [same]
    exact rangeFlaw?_eq_none_iff.mpr ⟨counts.one_le, counts.le_limit, dies.one_le, dies.le_limit⟩
  | @single sides faces mark dies free =>
    have split : Parts.of? ('d' :: (sides ++ mark.toList)) = some ⟨[], sides, mark.toList⟩ :=
      Parts.of?_eq_some_iff.mpr
        ⟨rfl, by simp, dies.all_digits, dies.nonempty, by simpa using free⟩
    have same : (⟨[], sides, mark.toList⟩ : Parts).token ('d' :: (sides ++ mark.toList)) =
        ⟨'1' :: 'd' :: (sides ++ mark.toList), 1, faces, mark⟩ := by
      simp [Parts.token, dies.value]
    have one : 1 ≤ maxDice := by decide
    refine ⟨_, split, single mark, ?_, same⟩
    rw [same]
    exact rangeFlaw?_eq_none_iff.mpr ⟨le_rfl, one, dies.one_le, dies.le_limit⟩

theorem Parts.denotes {parts : Parts} (split : Parts.of? t = some parts)
    (single : parts.rest.length ≤ 1)
    (ranged : rangeFlaw? (parts.token t).count (parts.token t).faces = none) :
    Denotes t (parts.token t) := by
  obtain ⟨dice, sides, rest⟩ := parts
  obtain ⟨rfl, countDigits, facesDigits, nonempty, ended⟩ := Parts.of?_eq_some_iff.mp split
  obtain ⟨countLow, countHigh, facesLow, facesHigh⟩ := rangeFlaw?_eq_none_iff.mp ranged
  have whole : rest.head?.toList = rest := toList_head?_of_single single
  have dies : IsNumeralOf sides 1000000 (Nat.ofDigitChars 10 sides 0) :=
    ⟨nonempty, facesDigits, rfl, facesLow, facesHigh⟩
  by_cases missing : dice = []
  · subst missing
    have denotes := Denotes.single dies ended
    rw [whole] at denotes
    exact denotes
  · have counted : (Parts.token ⟨dice, sides, rest⟩ (dice ++ 'd' :: (sides ++ rest))).count =
        Nat.ofDigitChars 10 dice 0 := if_neg missing
    rw [counted] at countLow countHigh
    have denotes := Denotes.counted ⟨missing, countDigits, rfl, countLow, countHigh⟩ dies ended
    rw [whole] at denotes
    simpa [Parts.token, missing] using denotes

theorem HasShortRuns.parts (short : HasShortRuns t) {parts : Parts}
    (split : Parts.of? t = some parts) :
    parts.count.length ≤ numeralLimit ∧ parts.faces.length ≤ numeralLimit := by
  obtain ⟨whole, countDigits, facesDigits, -⟩ := Parts.of?_eq_some_iff.mp split
  have countInside : parts.count <:+: t := ⟨[], 'd' :: (parts.faces ++ parts.rest), whole.symm⟩
  have facesInside : parts.faces <:+: t := ⟨parts.count ++ ['d'], parts.rest, by simp [whole]⟩
  exact ⟨short _ countInside countDigits, short _ facesInside facesDigits⟩

/-- Where its runs of digits are short, a text is read exactly as what it stands for, if it stands for a
token and its processor is known. -/
theorem parse_eq_ok_iff_denotes (short : HasShortRuns t) :
    Token.parse known t = .ok token ↔
      Denotes t token ∧ ∀ c ∈ token.processor, known c = true := by
  constructor
  · intro read
    obtain ⟨parts, -, -, split, -⟩ := Token.parse_eq_ok_iff.mp read
    obtain ⟨single, -, -, ranged, holds, rfl⟩ := (Parts.parse_eq_ok_iff split).mp read
    exact ⟨Parts.denotes split single ranged, holds⟩
  · rintro ⟨denotes, holds⟩
    obtain ⟨parts, split, single, ranged, rfl⟩ := denotes.exists_parts
    obtain ⟨countShort, facesShort⟩ := short.parts split
    exact (Parts.parse_eq_ok_iff split).mpr
      ⟨single, countShort, facesShort, ranged, holds, rfl⟩

/-- Reading a token decides the bounded language of tokens, where runs of digits are short. A text of
the language is read as what it stands for if its processor is known, and its processor is unknown if
not; any other text is malformed. -/
theorem parse_decides_bounded_tokens (known : Char → Bool) (short : HasShortRuns t) :
    (∀ token, Token.parse known t = .ok token ↔
      Denotes t token ∧ ∀ c ∈ token.processor, known c = true) ∧
    (∀ symbol, Token.parse known t = .error (.unknownProcessor symbol) ↔
      ∃ c, symbol = .text [c] ∧ known c = false ∧
        ∃ token, Denotes t token ∧ token.processor = some c) ∧
    ((∃ flaw, Token.parse known t = .error (.malformedToken t flaw)) ↔
      ¬∃ token, Denotes t token) := by
  have read {token : Token} : Denotes t token ↔ Token.parse (fun _ => true) t = .ok token := by
    rw [parse_eq_ok_iff_denotes short]
    simp
  have unknown {symbol : Datum} : Token.parse known t = .error (.unknownProcessor symbol) ↔
      ∃ c, symbol = .text [c] ∧ known c = false ∧
        ∃ token, Denotes t token ∧ token.processor = some c := by
    simp only [Token.parse_eq_unknownProcessor_iff, read]
  refine ⟨fun token => parse_eq_ok_iff_denotes short, fun symbol => unknown, ?_, ?_⟩
  · rintro ⟨flaw, malformed⟩ ⟨token, denotes⟩
    by_cases holds : ∀ c ∈ token.processor, known c = true
    · rw [(parse_eq_ok_iff_denotes short).mpr ⟨denotes, holds⟩] at malformed
      cases malformed
    · simp only [not_forall] at holds
      obtain ⟨c, named, other⟩ := holds
      rw [unknown.mpr ⟨c, rfl, Bool.eq_false_iff.mpr other, token, denotes, named⟩] at malformed
      cases malformed
  · intro none
    cases outcome : Token.parse known t with
    | ok token => exact absurd ⟨token, ((parse_eq_ok_iff_denotes short).mp outcome).1⟩ none
    | error fault =>
      rcases Token.parse_error outcome with ⟨flaw, rfl⟩ | ⟨c, rfl, -⟩ | ⟨parts, split, -, long, -⟩
      · exact ⟨flaw, rfl⟩
      · obtain ⟨-, -, -, token, denotes, -⟩ := unknown.mp outcome
        exact absurd ⟨token, denotes⟩ none
      · obtain ⟨countShort, facesShort⟩ := short.parts split
        rcases long with countLong | facesLong <;> omega

theorem parse_decides_bounded_tokens_at_limits :
    let most : Token := ⟨"0001000d01000000!".toList, 1000, 1000000, some '!'⟩
    (HasShortRuns most.name ∧ Token.parse (· == '!') most.name = .ok most ∧
      Denotes most.name most ∧
      Token.parse (fun _ => false) most.name = .error (.unknownProcessor (.text ['!']))) ∧
    HasShortRuns "1d0006!!".toList ∧ ¬∃ token, Denotes "1d0006!!".toList token := by
  intro most
  have short {s : Text} (few : s.length ≤ numeralLimit) : HasShortRuns s :=
    fun run inside _ => inside.length_le.trans few
  have shortMost : HasShortRuns most.name := short (by decide)
  have shortOther : HasShortRuns "1d0006!!".toList := short (by decide)
  have read : Token.parse (· == '!') most.name = .ok most := by rfl
  have malformed : Token.parse (· == '!') "1d0006!!".toList =
      .error (.malformedToken "1d0006!!".toList (.trailing ['!', '!'])) := by rfl
  obtain ⟨accepted, -, -⟩ := parse_decides_bounded_tokens (· == '!') shortMost
  obtain ⟨-, unknown, -⟩ := parse_decides_bounded_tokens (fun _ => false) shortMost
  obtain ⟨-, -, refused⟩ := parse_decides_bounded_tokens (· == '!') shortOther
  have denotes := ((accepted most).mp read).1
  exact ⟨⟨shortMost, read, denotes, (unknown _).mpr ⟨'!', rfl, rfl, most, denotes, rfl⟩⟩,
    shortOther, refused.mp ⟨_, malformed⟩⟩

end InlineDice.Notation
