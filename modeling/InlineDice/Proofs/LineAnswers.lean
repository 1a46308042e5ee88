import InlineDice.Proofs.PipelineRolls
import InlineDice.Random.Twister

namespace InlineDice

namespace Notation

/-- A token whose numbers have few digits but for the zeros in front, and so many of these that one
of its two runs of digits is no numeral that is read. -/
def IsOverlong (t : Text) : Prop :=
  ∃ w : Spelling, w.text = t ∧
    (significant w.count).length ≤ (Nat.toDigits 10 maxDice).length ∧
    (significant w.faces).length ≤ (Nat.toDigits 10 maxFaces).length ∧
    (numeralLimit < w.count.length ∨ numeralLimit < w.faces.length)

theorem Spelling.sizeFlaw?_eq_none_iff (w : Spelling) :
    w.parts.sizeFlaw? = none ↔
      (significant w.count).length ≤ (Nat.toDigits 10 maxDice).length ∧
      (significant w.faces).length ≤ (Nat.toDigits 10 maxFaces).length := by
  have single : w.parts.rest.length ≤ 1 := by
    simp only [Spelling.parts]
    cases w.mark <;> simp
  exact Parts.sizeFlaw?_eq_none_iff.trans (and_iff_right single)

/-- The only numerals that are too long to be read are those of overlong tokens. -/
theorem parse_numeralTooLong_iff {known : Char → Bool} {t : Text} (solid : IsSolid t) :
    (∃ n, Token.parse known t = .error (.numeralTooLong n)) ↔ IsOverlong t := by
  constructor
  · rintro ⟨n, failed⟩
    rcases Token.parse_error failed with ⟨_, other⟩ | ⟨_, other, -⟩ | ⟨parts, split, sized, long, -⟩
    · cases other
    · cases other
    · obtain ⟨w, rfl⟩ := isToken_of_parts solid split sized
      rw [w.of?_text] at split
      cases split
      obtain ⟨fewCount, fewFaces⟩ := w.sizeFlaw?_eq_none_iff.mp sized
      exact ⟨w, rfl, fewCount, fewFaces, long⟩
  · rintro ⟨w, rfl, fewCount, fewFaces, long⟩
    have sized := w.sizeFlaw?_eq_none_iff.mpr ⟨fewCount, fewFaces⟩
    exact ⟨_, Token.parse_of_isOverlong w.of?_text sized long⟩

/-- All tokens up to the first overlong one can be read. -/
def IsOverlongFirst (known : Char → Bool) (s : Text) : Prop :=
  ∃ before t after, tokenize s = before ++ t :: after ∧ (∀ u ∈ before, IsReadable known u) ∧
    IsOverlong t

theorem isOverlongFirst_iff {known : Char → Bool} {s : Text} :
    IsOverlongFirst known s ↔
      ∃ n, (tokenize s).mapM (Token.parse known) = .error (.numeralTooLong n) := by
  simp only [mapM_eq_error_iff]
  constructor
  · rintro ⟨before, t, after, split, readable, overlong⟩
    have solid : IsSolid t := isSolid_of_mem_tokenize (s := s) (by rw [split]; simp)
    obtain ⟨n, failed⟩ := (parse_numeralTooLong_iff solid).mpr overlong
    exact ⟨n, before, t, after, split, readable, failed⟩
  · rintro ⟨n, before, t, after, split, readable, failed⟩
    have solid : IsSolid t := isSolid_of_mem_tokenize (s := s) (by rw [split]; simp)
    exact ⟨before, t, after, split, readable, (parse_numeralTooLong_iff solid).mp ⟨n, failed⟩⟩

end Notation

open Notation

/-- How hosts expect a dice line to end: in a report, or in a fault of one of its tokens. -/
def IsAnswered {α : Type} : Except Fault α → Prop
  | .ok _ => True
  | .error (.malformedToken _ _) => True
  | .error (.unknownProcessor _) => True
  | .error _ => False

/-- A dice line is answered, by a report or a fault of a token, unless its first token that cannot be
read is overlong, or all can be read and the floor of the column is no width that can be asked for. The
checks of rolling itself never fail. -/
theorem dice_line_answered_iff {σ : Type} [RandomSource σ] (honest : RandomSource.Honest σ)
    {p : Pipeline} (builtin : p.registry = .builtin) {s : Text}
    (dice : (recognize s).isSome = true) (source : σ) :
    (p.transform s).run source = (some <$> p.roll s).run source ∧
      (IsAnswered ((p.roll s).run source).outcome ↔
        ¬IsOverlongFirst p.registry.contains s ∧
          ¬(p.IsTooWide ∧ ∀ t ∈ tokenize s, IsReadable p.registry.contains t)) ∧
      ∀ n, ((p.roll s).run source).outcome ≠ .error (.countBelowOne n) ∧
        ((p.roll s).run source).outcome ≠ .error (.facesBelowOne n) := by
  rw [recognize_isSome] at dice
  have nonempty := tokenize_ne_nil_of_isDiceLine dice
  have read := Pipeline.tokens_eq_mapM (p := p) nonempty
  refine ⟨by rw [Pipeline.transform_of_isDiceLine dice], ?_⟩
  rw [isOverlongFirst_iff, forall_isReadable_iff]
  cases parsed : (tokenize s).mapM (Token.parse p.registry.contains) with
  | error fault =>
    -- Nothing is rolled, and the fault is that of the first token that cannot be read.
    have ended : ((p.roll s).run source).outcome = .error fault := by
      rw [Pipeline.roll_of_unread (read.trans parsed)]
    obtain ⟨before, t, after, -, -, failed⟩ := mapM_eq_error_iff.mp parsed
    rw [ended]
    rcases Token.parse_error failed with ⟨flaw, rfl⟩ | ⟨c, rfl, -⟩ | ⟨_, _, _, _, n, rfl⟩ <;>
      simp [IsAnswered]
  | ok tokens =>
    -- All is rolled, so only the width of the column can be at fault.
    obtain ⟨instructions, rest, -, run⟩ :=
      Pipeline.roll_of_read honest builtin (read.trans parsed) source
    rw [run]
    by_cases wide : p.IsTooWide <;> simp [IsAnswered, wide]

theorem dice_line_answered_iff_two_tokens :
    (recognize "2d6, 1d4+".toList).isSome = true ∧
      IsAnswered ((Pipeline.default.roll "2d6, 1d4+".toList).run (Twister.ofSeed 0)).outcome := by
  have dice : (recognize "2d6, 1d4+".toList).isSome = true := by decide
  have parsed : (tokenize "2d6, 1d4+".toList).mapM (Token.parse Pipeline.default.registry.contains) =
      .ok [⟨"2d6".toList, 2, 6, none⟩, ⟨"1d4+".toList, 1, 4, some '+'⟩] := by rfl
  have notFirst : ¬IsOverlongFirst Pipeline.default.registry.contains "2d6, 1d4+".toList := by
    intro first
    obtain ⟨n, failed⟩ := isOverlongFirst_iff.mp first
    rw [parsed] at failed
    simp at failed
  have room : ¬(Pipeline.default.IsTooWide ∧
      ∀ t ∈ tokenize "2d6, 1d4+".toList, IsReadable Pipeline.default.registry.contains t) := by
    rintro ⟨wide, -⟩
    exact absurd wide (by decide)
  obtain ⟨-, exactly, -⟩ :=
    dice_line_answered_iff (p := .default) Twister.honest rfl dice (Twister.ofSeed 0)
  rw [exactly]
  exact ⟨dice, notFirst, room⟩

/-- The token `1d6` behind as many zeros as a numeral may have digits. -/
def zerosBeforeOne : Spelling where
  count := List.replicate numeralLimit '0' ++ ['1']
  faces := ['6']
  mark := none
  count_digits := by
    intro c member
    rcases List.mem_append.mp member with zero | one
    · rw [List.eq_of_mem_replicate zero]
      decide
    · rw [List.mem_singleton.mp one]
      decide
  faces_digits := List.forall_mem_singleton.mpr (by decide)
  faces_ne_nil := List.cons_ne_nil _ _
  mark_free := by simp

theorem zerosBeforeOne_parse (known : Char → Bool) :
    Token.parse known zerosBeforeOne.text = .error (.numeralTooLong (numeralLimit + 1)) := by
  have one : significant zerosBeforeOne.count = ['1'] := by
    unfold significant zerosBeforeOne
    rw [List.dropWhile_append_of_pos (by simp)]
    rfl
  have sized : zerosBeforeOne.parts.sizeFlaw? = none := by
    rw [Spelling.sizeFlaw?_eq_none_iff, one]
    decide
  have length : zerosBeforeOne.parts.count.length = numeralLimit + 1 := by
    simp [Spelling.parts, zerosBeforeOne]
  have long : numeralLimit < zerosBeforeOne.parts.count.length := by omega
  rw [Token.parse_of_isOverlong zerosBeforeOne.of?_text sized (.inl long), if_pos long, length]

/-- Zeros in front of a count keep its value and still stop its line: there are too many of them. -/
theorem dice_line_of_zeros_escapes :
    (recognize zerosBeforeOne.text).isSome = true ∧
      (Pipeline.default.roll zerosBeforeOne.text).run (Twister.ofSeed 0) =
        ⟨.error (.numeralTooLong (numeralLimit + 1)), Twister.ofSeed 0, [], []⟩ ∧
      ¬IsAnswered (.error (.numeralTooLong (numeralLimit + 1)) : Except Fault Text) := by
  have alone := tokenize_of_isSolid zerosBeforeOne.text_isSolid
  have some : tokenize zerosBeforeOne.text ≠ [] := by simp [alone]
  have tokens : ∀ t ∈ tokenize zerosBeforeOne.text, IsToken t := by
    rw [alone]
    exact List.forall_mem_singleton.mpr ⟨zerosBeforeOne, rfl⟩
  have unread : Pipeline.default.tokens zerosBeforeOne.text =
      .error (.numeralTooLong (numeralLimit + 1)) := by
    rw [Pipeline.tokens_eq_mapM some, alone]
    exact mapM_eq_error_iff.mpr ⟨[], _, [], rfl, by simp, zerosBeforeOne_parse _⟩
  exact ⟨by rw [recognize_isSome, (isDiceLine_iff _).mpr ⟨some, tokens⟩],
    Pipeline.roll_of_unread unread _, id⟩

end InlineDice
