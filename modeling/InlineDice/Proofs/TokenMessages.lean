import InlineDice.Proofs.TokenLimits

namespace InlineDice

namespace Quoted

theorem length_hex {width n : Nat} (positive : 0 < width) (fits : n < 16 ^ width) :
    (hex width n).length = width := by
  have few := (Nat.length_toDigits_le_iff (by decide) positive).mpr fits
  simp only [hex, List.length_append, List.length_replicate]
  omega

theorem length_escape (mark c : Char) :
    1 ≤ (escape mark c).length ∧ (escape mark c).length ≤ 10 := by
  have two : c.toNat < 0x100 → (hex 2 c.toNat).length = 2 := fun small => length_hex (by decide) small
  have four : c.toNat < 0x10000 → (hex 4 c.toNat).length = 4 := fun small => length_hex (by decide) small
  have eight : (hex 8 c.toNat).length = 8 := length_hex (by decide) c.val.toNat_lt
  unfold escape
  split_ifs <;> simp_all

/-- A quoted text has at least a character for each one of the text, and at most ten. -/
theorem length_encode (s : Text) :
    s.length + 2 ≤ (encode s).length ∧ (encode s).length ≤ 10 * s.length + 2 := by
  have inside : ∀ mark, s.length ≤ (s.flatMap (escape mark)).length ∧
      (s.flatMap (escape mark)).length ≤ 10 * s.length := by
    intro mark
    induction s with
    | nil => simp
    | cons c s ih =>
      have first := length_escape mark c
      rw [List.flatMap_cons, List.length_append, List.length_cons]
      omega
  have bounds := inside (mark s)
  simp only [encode, List.length_append, List.length_cons, List.length_nil]
  omega

end Quoted

theorem Fault.length_shortened (token : Text) : (shortened token).length ≤ 40 := by
  unfold shortened
  split
  · assumption
  · simp

namespace TokenFlaw

/-- A flaw that no token has but one of many characters is told in few of them. -/
theorem length_message {flaw : TokenFlaw} (other : ∀ rest, flaw ≠ .trailing rest)
    (few : ∀ n, flaw = .tooManyDice n ∨ flaw = .tooManyFaces n → (Nat.toDigits 10 n).length ≤ 7) :
    flaw.message.length ≤ 40 := by
  unfold message
  cases flaw with
  | trailing rest => exact absurd rfl (other rest)
  | tooManyDice n =>
    have words : "too many dice: ".toList.length + " ".toList.length + diceLimit.length = 26 := by
      decide +kernel
    have short := few n (.inl rfl)
    simp only [List.length_append]
    omega
  | tooManyFaces n =>
    have words : "too many faces: ".toList.length + " ".toList.length + facesLimit.length = 30 := by
      decide +kernel
    have short := few n (.inr rfl)
    simp only [List.length_append]
    omega
  | _ => decide +kernel

end TokenFlaw

namespace Notation

theorem ofDigitChars_lt_pow {digits : Text} (all : ∀ c ∈ digits, c.isDigit = true) :
    Nat.ofDigitChars 10 digits 0 < 10 ^ digits.length := by
  induction digits with
  | nil => simp
  | cons c digits ih =>
    obtain ⟨digit, later⟩ := List.forall_mem_cons.mp all
    have upper := (isDigit_iff.mp digit).2
    have zero : '0'.toNat = 48 := rfl
    have value : 10 * 0 + (c.toNat - '0'.toNat) ≤ 9 := by omega
    have front := Nat.mul_le_mul_left (10 ^ digits.length) value
    rw [Nat.ofDigitChars_cons, Nat.ofDigitChars_eq_ofDigitChars_zero, List.length_cons, Nat.pow_succ]
    have rest := ih later
    omega

/-- A number has no more digits than count for it in what is written, zeros in front left out. -/
theorem length_toDigits_numeral_le {digits : Text} (all : ∀ c ∈ digits, c.isDigit = true) {n k : Nat}
    (read : numeral digits = .ok n) (few : (significant digits).length ≤ k) (positive : 0 < k) :
    (Nat.toDigits 10 n).length ≤ k := by
  have kept : ∀ c ∈ significant digits, c.isDigit = true := fun c member =>
    all c ((List.dropWhile_sublist _).subset member)
  have small := ofDigitChars_lt_pow kept
  rw [ofDigitChars_significant, (numeral_eq_ok_iff.mp read).2] at small
  have powers := Nat.pow_le_pow_right (by decide : 0 < 10) few
  exact (Nat.length_toDigits_le_iff (by decide) positive).mpr (small.trans_le powers)

variable {known : Char → Bool} {t named : Text} {flaw : TokenFlaw}

/-- What can be said of the flaw of a token: what it quotes is the rest of the token, and the numbers
that it tells have few digits. -/
theorem Token.parse_malformed (failed : Token.parse known t = .error (.malformedToken named flaw)) :
    named = t ∧
      (∀ rest, flaw = .trailing rest ↔
        ∃ parts, Parts.of? t = some parts ∧ 1 < parts.rest.length ∧ parts.rest = rest) ∧
      ∀ n, flaw = .tooManyDice n ∨ flaw = .tooManyFaces n → (Nat.toDigits 10 n).length ≤ 7 := by
  unfold Token.parse at failed
  split at failed
  · next split =>
    cases failed
    simp [split]
  · next parts split =>
    obtain ⟨-, countDigits, facesDigits, -⟩ := Parts.of?_eq_some_iff.mp split
    simp only [split, Option.some.injEq, exists_eq_left']
    split at failed
    · next sized =>
      cases failed
      unfold Parts.sizeFlaw? at sized
      split_ifs at sized with many <;> cases sized <;> simp_all
    · next sized =>
      obtain ⟨single, countShort, facesShort⟩ := Parts.sizeFlaw?_eq_none_iff.mp sized
      rw [except_bind_eq_error_iff] at failed
      rcases failed with overlong | ⟨count, countRead, failed⟩
      · cases (Parts.countValue_eq_error_iff.mp overlong).2
      rw [except_bind_eq_error_iff] at failed
      rcases failed with overlong | ⟨faces, facesRead, failed⟩
      · cases (numeral_eq_error_iff.mp overlong).2
      have countFew : (Nat.toDigits 10 count).length ≤ 7 := by
        unfold Parts.countValue at countRead
        split at countRead
        · cases countRead
          decide
        · exact (length_toDigits_numeral_le countDigits countRead countShort (by decide)).trans
            (by decide)
      have facesFew : (Nat.toDigits 10 faces).length ≤ 7 :=
        length_toDigits_numeral_le facesDigits facesRead facesShort (by decide)
      dsimp only at failed
      split at failed
      · next ranged =>
        cases failed
        unfold rangeFlaw? at ranged
        split_ifs at ranged <;> cases ranged <;>
          simp [Nat.not_lt.mpr single, countFew, facesFew]
      · cases failed
      · split at failed <;> cases failed

/-- The message about a malformed token is long only where many characters follow the faces of the
token, which it quotes in full: however long the runs of digits are, the message is short, and the token
itself is cut. The whole token is kept beside it. -/
theorem malformed_message_short_iff
    (failed : Token.parse known t = .error (.malformedToken named flaw)) :
    (Fault.malformedToken named flaw).subject? = some (.text t) ∧
      ((Fault.malformedToken named flaw).message.length ≤ 1000 ↔
        ∀ parts, Parts.of? t = some parts → 1 < parts.rest.length →
          (Quoted.encode (Fault.shortened t)).length + (Quoted.encode parts.rest).length ≤ 946) ∧
      ((∀ parts, Parts.of? t = some parts → parts.rest.length ≤ 54) →
        (Fault.malformedToken named flaw).message.length ≤ 1000) := by
  obtain ⟨rfl, trailing, few⟩ := Token.parse_malformed failed
  have cut : (Quoted.encode (Fault.shortened named)).length ≤ 402 := by
    have short := Fault.length_shortened named
    have quoted := (Quoted.length_encode (Fault.shortened named)).2
    omega
  have words : "Malformed dice token ".toList.length + ": ".toList.length = 23 := by decide +kernel
  have whole : (Fault.malformedToken named flaw).message.length =
      23 + (Quoted.encode (Fault.shortened named)).length + flaw.message.length := by
    unfold Fault.message
    simp only [List.length_append]
    omega
  by_cases quotes : ∃ rest, flaw = .trailing rest
  · obtain ⟨rest, rfl⟩ := quotes
    obtain ⟨parts, split, many, rfl⟩ := (trailing _).mp rfl
    have reason : "unexpected trailing characters ".toList.length = 31 := by decide +kernel
    have told : (TokenFlaw.trailing parts.rest).message.length =
        31 + (Quoted.encode parts.rest).length := by
      unfold TokenFlaw.message
      rw [List.length_append, reason]
    have quoted := (Quoted.length_encode parts.rest).2
    simp only [split, Option.some.injEq, forall_eq', many, forall_const]
    refine ⟨rfl, ?_, ?_⟩ <;> omega
  · have other : ∀ rest, flaw ≠ .trailing rest := not_exists.mp quotes
    have told := TokenFlaw.length_message other few
    have none : ∀ parts, Parts.of? named = some parts → ¬1 < parts.rest.length :=
      fun parts split many => other _ ((trailing _).mpr ⟨parts, split, many, rfl⟩)
    have short : (Fault.malformedToken named flaw).message.length ≤ 1000 := by omega
    exact ⟨rfl, iff_of_true short fun parts split many => absurd many (none parts split),
      fun _ => short⟩

/-- A die with a number of characters behind its faces. -/
def trailedDie (n : Nat) : Text := 'd' :: '6' :: List.replicate n 'x'

theorem of?_trailedDie (n : Nat) :
    Parts.of? (trailedDie n) = some ⟨[], ['6'], List.replicate n 'x'⟩ := by
  have digit : ∀ c ∈ ['6'], c.isDigit = true := List.forall_mem_singleton.mpr (by decide)
  refine Parts.of?_eq_some_iff.mpr ⟨rfl, by simp, digit, by simp, ?_⟩
  intro c first
  have same := List.eq_of_mem_replicate (List.mem_of_mem_head? first)
  rw [same]
  decide

/-- There is no bound on the messages about tokens. -/
theorem trailedDie_floods (known : Char → Bool) {n : Nat} (many : 1 < n) :
    ∃ flaw, Token.parse known (trailedDie n) = .error (.malformedToken (trailedDie n) flaw) ∧
      n < (Fault.malformedToken (trailedDie n) flaw).message.length := by
  have sized : (⟨[], ['6'], List.replicate n 'x'⟩ : Parts).sizeFlaw? =
      some (.trailing (List.replicate n 'x')) := by
    simp [Parts.sizeFlaw?, many]
  refine ⟨.trailing (List.replicate n 'x'), by simp [Token.parse, of?_trailedDie, sized], ?_⟩
  have quoted := (Quoted.length_encode (List.replicate n 'x')).1
  unfold Fault.message TokenFlaw.message
  rw [List.length_replicate] at quoted
  simp only [List.length_append]
  omega

theorem malformed_message_short_iff_forty_nines :
    let t := 'd' :: List.replicate 44 '9'
    Token.parse Registry.builtin.contains t = .error (.malformedToken t .facesTooLong) ∧
      (Fault.malformedToken t .facesTooLong).message.length ≤ 1000 ∧
      ∃ flaw, Token.parse Registry.builtin.contains (trailedDie 945) =
          .error (.malformedToken (trailedDie 945) flaw) ∧
        ¬(Fault.malformedToken (trailedDie 945) flaw).message.length ≤ 1000 := by
  intro t
  have failed : Token.parse Registry.builtin.contains t =
      .error (.malformedToken t .facesTooLong) := rfl
  have bare : Parts.of? t = some ⟨[], List.replicate 44 '9', []⟩ := rfl
  obtain ⟨-, -, short⟩ := malformed_message_short_iff failed
  obtain ⟨flaw, trailed, -⟩ := trailedDie_floods Registry.builtin.contains (by decide : 1 < 945)
  obtain ⟨-, iff, -⟩ := malformed_message_short_iff trailed
  refine ⟨failed, short fun parts split => ?_, flaw, trailed, fun fits => ?_⟩
  · cases bare.symm.trans split
    decide
  · have many : (List.replicate 945 'x').length = 945 := List.length_replicate
    have quoted := iff.mp fits _ (of?_trailedDie 945) (by rw [many]; decide)
    have rest := (Quoted.length_encode (List.replicate 945 'x')).1
    dsimp only at quoted
    omega

/-- The message about a die with a thousand characters behind it has more than a thousand. -/
theorem thousand_trailing_flood :
    ∃ flaw, Token.parse Registry.builtin.contains (trailedDie 1000) =
        .error (.malformedToken (trailedDie 1000) flaw) ∧
      1000 < (Fault.malformedToken (trailedDie 1000) flaw).message.length :=
  trailedDie_floods Registry.builtin.contains (by decide)

end Notation

end InlineDice
