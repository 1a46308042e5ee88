import InlineDice.Notation.Token
import InlineDice.Proofs.PlayRuns
import InlineDice.Proofs.TokenSpelling

namespace InlineDice.Notation

theorem digits_append {digits rest : Text} (all : ∀ c ∈ digits, c.isDigit = true)
    (ended : ∀ c ∈ rest.head?, c.isDigit = false) :
    (digits ++ rest).takeWhile Char.isDigit = digits ∧
      (digits ++ rest).dropWhile Char.isDigit = rest := by
  rw [List.takeWhile_append_of_pos all, List.dropWhile_append_of_pos all]
  cases rest with
  | nil => simp
  | cons c rest => simp [ended c rfl]

theorem head_dropWhile_digits (s : Text) :
    ∀ c ∈ (s.dropWhile Char.isDigit).head?, c.isDigit = false := by
  intro c first
  have kept := List.head?_dropWhile_not Char.isDigit s
  rw [Option.mem_def.mp first] at kept
  simpa using kept

/-- There is one way to take a token apart, and nothing of it is lost. -/
theorem Parts.of?_eq_some_iff {t : Text} {parts : Parts} :
    Parts.of? t = some parts ↔ t = parts.count ++ 'd' :: (parts.faces ++ parts.rest) ∧
      (∀ c ∈ parts.count, c.isDigit = true) ∧ (∀ c ∈ parts.faces, c.isDigit = true) ∧
      parts.faces ≠ [] ∧ ∀ c ∈ parts.rest.head?, c.isDigit = false := by
  constructor
  · intro split
    unfold Parts.of? at split
    split at split
    · next after atD =>
      split at split
      · cases split
      · next faces =>
        cases split
        refine ⟨?_, fun c member => List.mem_takeWhile_imp member,
          fun c member => List.mem_takeWhile_imp member, faces, head_dropWhile_digits after⟩
        dsimp only
        rw [List.takeWhile_append_dropWhile, ← atD, List.takeWhile_append_dropWhile]
    · cases split
  · rintro ⟨rfl, countDigits, facesDigits, nonempty, ended⟩
    have atD : ∀ c ∈ ('d' :: (parts.faces ++ parts.rest)).head?, c.isDigit = false := by
      intro c first
      cases first
      decide
    have outer := digits_append countDigits atD
    have inner := digits_append facesDigits ended
    simp [Parts.of?, outer, inner, nonempty]

def Spelling.parts (w : Spelling) : Parts := ⟨w.count, w.faces, w.mark.toList⟩

theorem Spelling.of?_text (w : Spelling) : Parts.of? w.text = some w.parts := by
  refine Parts.of?_eq_some_iff.mpr
    ⟨rfl, w.count_digits, w.faces_digits, w.faces_ne_nil, ?_⟩
  intro c first
  have marked : c ∈ w.mark := by
    cases atMark : w.mark with
    | none => simp [parts, atMark] at first
    | some d => simpa [parts, atMark] using first
  exact (w.mark_free c marked).1

/-- One of the two runs of digits is longer than any numeral that is read. -/
def Parts.IsOverlong (parts : Parts) : Prop :=
  numeralLimit < parts.count.length ∨ numeralLimit < parts.faces.length

theorem Parts.sizeFlaw?_eq_none_iff {parts : Parts} :
    parts.sizeFlaw? = none ↔ parts.rest.length ≤ 1 ∧
      (significant parts.count).length ≤ (Nat.toDigits 10 maxDice).length ∧
      (significant parts.faces).length ≤ (Nat.toDigits 10 maxFaces).length := by
  unfold Parts.sizeFlaw?
  split_ifs with trailing longCount longFaces <;> simp <;> omega

/-- A rest of one character at most is that character, if there is one. -/
theorem toList_head?_of_single {rest : Text} (single : rest.length ≤ 1) :
    rest.head?.toList = rest := by
  rcases rest with - | ⟨c, - | ⟨d, more⟩⟩
  · rfl
  · rfl
  · simp at single

/-- What can be taken apart without a flaw and holds no separator is spelled like a token. -/
theorem isToken_of_parts {t : Text} {parts : Parts} (solid : IsSolid t)
    (split : Parts.of? t = some parts) (sized : parts.sizeFlaw? = none) : IsToken t := by
  have single := (Parts.sizeFlaw?_eq_none_iff.mp sized).1
  obtain ⟨rfl, countDigits, facesDigits, nonempty, ended⟩ := Parts.of?_eq_some_iff.mp split
  have whole := toList_head?_of_single single
  have free : ∀ c ∈ parts.rest.head?, c.isDigit = false ∧ isSeparator c = false := by
    intro c first
    have inRest : c ∈ parts.rest := List.mem_of_mem_head? first
    exact ⟨ended c first, solid.2 c (by simp [inRest])⟩
  refine ⟨⟨parts.count, parts.faces, parts.rest.head?, countDigits, facesDigits, nonempty, free⟩, ?_⟩
  simp only [Spelling.text, whole]

theorem numeral_eq_ok_iff {digits : Text} {n : Nat} :
    numeral digits = .ok n ↔
      digits.length ≤ numeralLimit ∧ Nat.ofDigitChars 10 digits 0 = n := by
  unfold numeral
  split
  · next short => simp [short]
  · next long => simp [long]

theorem numeral_eq_error_iff {digits : Text} {fault : Fault} :
    numeral digits = .error fault ↔
      numeralLimit < digits.length ∧ fault = .numeralTooLong digits.length := by
  unfold numeral
  split
  · simp only [reduceCtorEq, false_iff]
    omega
  · simp only [Except.error.injEq, eq_comm, iff_and_self]
    omega

theorem Parts.countValue_length {parts : Parts} {n : Nat} (read : parts.countValue = .ok n) :
    parts.count.length ≤ numeralLimit := by
  unfold Parts.countValue at read
  split at read
  · next empty => simp [empty]
  · exact (numeral_eq_ok_iff.mp read).1

theorem Parts.countValue_eq_error_iff {parts : Parts} {fault : Fault} :
    parts.countValue = .error fault ↔
      numeralLimit < parts.count.length ∧ fault = .numeralTooLong parts.count.length := by
  unfold Parts.countValue
  split
  · next empty => simp [empty]
  · exact numeral_eq_error_iff

theorem rangeFlaw?_eq_none_iff {count faces : Nat} :
    rangeFlaw? count faces = none ↔
      1 ≤ count ∧ count ≤ maxDice ∧ 1 ≤ faces ∧ faces ≤ maxFaces := by
  unfold rangeFlaw?
  split_ifs <;> simp <;> omega

section

variable {known : Char → Bool} {t : Text}

/-- Everything that reading a token takes, and what comes of it. -/
theorem Token.parse_eq_ok_iff {token : Token} :
    Token.parse known t = .ok token ↔ ∃ parts count faces,
      Parts.of? t = some parts ∧ parts.sizeFlaw? = none ∧ parts.countValue = .ok count ∧
      numeral parts.faces = .ok faces ∧ rangeFlaw? count faces = none ∧
      (∀ c ∈ parts.rest.head?, known c = true) ∧
      token = ⟨if parts.count = [] then '1' :: t else t, count, faces, parts.rest.head?⟩ := by
  unfold Token.parse
  cases split : Parts.of? t with
  | none => simp
  | some parts =>
    simp only [Option.some.injEq, exists_and_left, exists_eq_left']
    cases sized : parts.sizeFlaw? with
    | some flaw => simp
    | none =>
      simp only [except_bind_eq_ok_iff, true_and]
      refine exists_congr fun count => and_congr_right fun _ =>
        exists_congr fun faces => and_congr_right fun _ => ?_
      cases ranged : rangeFlaw? count faces with
      | some flaw => simp
      | none =>
        cases atMark : parts.rest.head? with
        | none => simpa using eq_comm
        | some c =>
          by_cases holds : known c = true
          · simpa [holds] using eq_comm
          · simp [holds]

/-- The ways in which a token fails. A processor is unknown only where all else is in order, so that
the token would be read if every processor were known. The last way is no flaw of the notation. -/
theorem Token.parse_error {fault : Fault} (failed : Token.parse known t = .error fault) :
    (∃ flaw, fault = .malformedToken t flaw) ∨
      (∃ c, fault = .unknownProcessor (.text [c]) ∧ known c = false ∧
        ∃ token, Token.parse (fun _ => true) t = .ok token ∧ token.processor = some c) ∨
      ∃ parts, Parts.of? t = some parts ∧ parts.sizeFlaw? = none ∧ parts.IsOverlong ∧
        ∃ n, fault = .numeralTooLong n := by
  unfold Token.parse at failed
  split at failed
  · cases failed
    exact .inl ⟨_, rfl⟩
  · next parts split =>
    split at failed
    · cases failed
      exact .inl ⟨_, rfl⟩
    · next sized =>
      rw [except_bind_eq_error_iff] at failed
      rcases failed with overlong | ⟨count, countRead, failed⟩
      · obtain ⟨long, rfl⟩ := Parts.countValue_eq_error_iff.mp overlong
        exact .inr (.inr ⟨parts, split, sized, .inl long, _, rfl⟩)
      rw [except_bind_eq_error_iff] at failed
      rcases failed with overlong | ⟨faces, facesRead, failed⟩
      · obtain ⟨long, rfl⟩ := numeral_eq_error_iff.mp overlong
        exact .inr (.inr ⟨parts, split, sized, .inr long, _, rfl⟩)
      dsimp only at failed
      split at failed
      · cases failed
        exact .inl ⟨_, rfl⟩
      · cases failed
      · next c ranged atMark =>
        split at failed
        · cases failed
        · next unknown =>
          cases failed
          have read := Token.parse_eq_ok_iff.mpr ⟨parts, count, faces, split, sized, countRead,
            facesRead, ranged, fun _ _ => rfl, rfl⟩
          exact .inr (.inl ⟨c, rfl, Bool.eq_false_iff.mpr unknown, _, read, atMark⟩)

theorem Token.parse_eq_unknownProcessor_iff {symbol : Datum} :
    Token.parse known t = .error (.unknownProcessor symbol) ↔
      ∃ c, symbol = .text [c] ∧ known c = false ∧
        ∃ token, Token.parse (fun _ => true) t = .ok token ∧ token.processor = some c := by
  constructor
  · intro failed
    rcases Token.parse_error failed with ⟨_, other⟩ | ⟨c, same, unread⟩ | ⟨_, _, _, _, _, other⟩
    · cases other
    · exact ⟨c, Fault.unknownProcessor.inj same, unread⟩
    · cases other
  · rintro ⟨c, rfl, unknown, token, read, named⟩
    obtain ⟨parts, count, faces, split, sized, countRead, facesRead, ranged, -, rfl⟩ :=
      Token.parse_eq_ok_iff.mp read
    have atMark : parts.rest.head? = some c := named
    unfold Token.parse
    simp [split, sized, countRead, facesRead, ranged, atMark, unknown, bind, Except.bind]

/-- Where the size check is passed, a run that is too long is found out only when it is read, the
count before the faces. -/
theorem Token.parse_of_isOverlong {parts : Parts} (split : Parts.of? t = some parts)
    (sized : parts.sizeFlaw? = none) (overlong : parts.IsOverlong) :
    Token.parse known t = .error (.numeralTooLong
      (if numeralLimit < parts.count.length then parts.count.length else parts.faces.length)) := by
  unfold Token.parse
  simp only [split, sized]
  by_cases long : numeralLimit < parts.count.length
  · have first := Parts.countValue_eq_error_iff.mpr ⟨long, rfl⟩
    rw [if_pos long]
    exact except_bind_eq_error_iff.mpr (.inl first)
  · obtain ⟨count, read⟩ : ∃ count, parts.countValue = .ok count := by
      cases read : parts.countValue with
      | ok count => exact ⟨count, rfl⟩
      | error fault => exact absurd (Parts.countValue_eq_error_iff.mp read).1 long
    have second := numeral_eq_error_iff.mpr ⟨overlong.resolve_left long, rfl⟩
    rw [if_neg long]
    exact except_bind_eq_error_iff.mpr
      (.inr ⟨count, read, except_bind_eq_error_iff.mpr (.inl second)⟩)

end

/-- What holds of every token that was read: its numbers keep within the limits, its processor is
known, and its name is as short as the numerals that are read. -/
structure Token.IsSound (known : Char → Bool) (token : Token) : Prop where
  one_le_count : 1 ≤ token.count
  count_le : token.count ≤ maxDice
  one_le_faces : 1 ≤ token.faces
  faces_le : token.faces ≤ maxFaces
  known_processor : ∀ c ∈ token.processor, known c = true
  name_length : token.name.length ≤ 2 * numeralLimit + 2

theorem Token.isSound_of_parse {known : Char → Bool} {t : Text} {token : Token}
    (read : Token.parse known t = .ok token) : token.IsSound known := by
  obtain ⟨parts, count, faces, split, sized, countRead, facesRead, ranged, holds, rfl⟩ :=
    Token.parse_eq_ok_iff.mp read
  obtain ⟨countLow, countHigh, facesLow, facesHigh⟩ := rangeFlaw?_eq_none_iff.mp ranged
  refine ⟨countLow, countHigh, facesLow, facesHigh, holds, ?_⟩
  have countShort := Parts.countValue_length countRead
  have facesShort := (numeral_eq_ok_iff.mp facesRead).1
  have restShort := (Parts.sizeFlaw?_eq_none_iff.mp sized).1
  have whole := congrArg List.length (Parts.of?_eq_some_iff.mp split).1
  simp only [List.length_append, List.length_cons] at whole
  dsimp only
  split
  · next empty =>
    rw [empty] at whole
    have limit : 1 ≤ numeralLimit := by decide
    simp only [List.length_cons, List.length_nil] at whole ⊢
    omega
  · omega

def IsReadable (known : Char → Bool) (t : Text) : Prop := ∃ token, Token.parse known t = .ok token

theorem forall_isReadable_iff {known : Char → Bool} {ts : List Text} :
    (∀ t ∈ ts, IsReadable known t) ↔ ∃ tokens, ts.mapM (Token.parse known) = .ok tokens := by
  constructor
  · intro readable
    cases parsed : ts.mapM (Token.parse known) with
    | ok tokens => exact ⟨tokens, rfl⟩
    | error fault =>
      obtain ⟨before, t, after, rfl, -, failed⟩ := mapM_eq_error_iff.mp parsed
      obtain ⟨token, worked⟩ := readable t (by simp)
      rw [worked] at failed
      cases failed
  · rintro ⟨tokens, parsed⟩ t member
    have all := mapM_eq_ok_iff.mp parsed
    obtain ⟨token, -, parsed⟩ := forall₂_exists_right all t member
    exact ⟨token, parsed⟩

end InlineDice.Notation
