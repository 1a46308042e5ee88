import InlineDice.CommandLine.Directory
import InlineDice.Proofs.PipelineRolls
import Mathlib.Tactic.IntervalCases

namespace InlineDice

theorem digitChar_ne_lineFeed (n : Nat) : n.digitChar ≠ '\n' := by
  rcases Nat.lt_or_ge n 16 with digit | beyond
  · interval_cases n <;> decide
  · rw [Nat.digitChar_eq_star.mpr beyond]
    decide

theorem lineFeed_not_mem_toDigits {base : Nat} (large : 1 < base) (n : Nat) :
    '\n' ∉ Nat.toDigits base n := by
  induction n using Nat.strongRecOn with
  | ind n ih =>
    rcases Nat.lt_or_ge n base with small | big
    · rw [Nat.toDigits_of_lt_base small, List.mem_singleton]
      exact (digitChar_ne_lineFeed n).symm
    · have smaller : n / base < n := Nat.div_lt_self (Nat.zero_lt_of_lt (large.trans_le big)) large
      rw [Nat.toDigits_of_base_le large big, List.mem_append, List.mem_singleton, not_or]
      exact ⟨ih _ smaller, (digitChar_ne_lineFeed _).symm⟩

namespace Quoted

theorem lineFeed_not_mem_hex (width n : Nat) : '\n' ∉ hex width n := by
  unfold hex
  rw [List.mem_append, not_or]
  refine ⟨?_, lineFeed_not_mem_toDigits (by decide) n⟩
  intro member
  exact absurd (List.eq_of_mem_replicate member) (by decide)

theorem mark_ne_lineFeed (s : Text) : mark s ≠ '\n' := by
  unfold mark
  split <;> decide

theorem lineFeed_not_mem_escape {mark : Char} (other : mark ≠ '\n') (c : Char) :
    '\n' ∉ escape mark c := by
  unfold escape
  split_ifs with special newline <;>
    simp only [List.mem_cons, List.not_mem_nil, lineFeed_not_mem_hex, or_false, not_or]
  · rcases special with rfl | rfl
    · decide
    · exact ⟨by decide, other.symm⟩
  · decide
  · decide
  · decide
  · exact fun same => newline same.symm
  all_goals decide

theorem lineFeed_not_mem_encode (s : Text) : '\n' ∉ encode s := by
  unfold encode
  have ne := mark_ne_lineFeed s
  simp only [List.cons_append, List.mem_cons, List.mem_append, List.mem_flatMap, List.not_mem_nil,
    or_false, not_or, not_exists, not_and]
  exact ⟨ne.symm, fun c _ => lineFeed_not_mem_escape ne c, ne.symm⟩

end Quoted

namespace TokenFlaw

theorem lineFeed_not_mem_limits : '\n' ∉ diceLimit ∧ '\n' ∉ facesLimit := by decide +kernel

theorem lineFeed_not_mem_message (flaw : TokenFlaw) : '\n' ∉ flaw.message := by
  obtain ⟨dice, faces⟩ := lineFeed_not_mem_limits
  have digits := lineFeed_not_mem_toDigits (by decide : 1 < 10)
  unfold message
  cases flaw with
  | missingFaces => decide +kernel
  | trailing rest =>
    have quoted := Quoted.lineFeed_not_mem_encode rest
    simp only [List.mem_append, quoted, or_false]
    decide +kernel
  | countTooLong =>
    simp only [List.mem_append, dice, or_false]
    decide +kernel
  | facesTooLong =>
    simp only [List.mem_append, faces, or_false]
    decide +kernel
  | tooManyDice count =>
    simp only [List.mem_append, dice, digits, or_false]
    decide +kernel
  | tooManyFaces faceCount =>
    simp only [List.mem_append, faces, digits, or_false]
    decide +kernel
  | noDice => decide +kernel
  | noFaces => decide +kernel

end TokenFlaw

namespace Fault

theorem lineFeed_not_mem_of_malformedLine (line : Text) : '\n' ∉ (malformedLine line).message := by
  have quoted := Quoted.lineFeed_not_mem_encode line
  unfold message
  simp only [List.mem_append, quoted, or_false]
  decide +kernel

theorem lineFeed_not_mem_of_tokens {p : Pipeline} {text : Text} {fault : Fault}
    (unread : p.tokens text = .error fault) (dice : fault.isDice = true) :
    '\n' ∉ fault.message := by
  rcases Pipeline.tokens_eq_error_iff.mp unread with failed | ⟨-, rfl⟩
  · obtain ⟨before, t, after, -, -, failed⟩ := mapM_eq_error_iff.mp failed
    rcases Notation.Token.parse_error failed with ⟨flaw, rfl⟩ | ⟨c, rfl, -⟩ | ⟨_, _, _, _, n, rfl⟩
    · have quoted := Quoted.lineFeed_not_mem_encode (shortened t)
      unfold message
      simp only [List.mem_append, quoted, flaw.lineFeed_not_mem_message, or_false]
      decide +kernel
    · have quoted := Quoted.lineFeed_not_mem_encode [c]
      change '\n' ∉ "Unknown processor: ".toList ++ Quoted.encode [c]
      simp only [List.mem_append, quoted, or_false]
      decide +kernel
    · cases dice
  · exact lineFeed_not_mem_of_malformedLine text

end Fault

namespace CommandLine.OpenFailure

theorem lineFeed_not_mem_message {failure : OpenFailure} (whole : '\n' ∉ failure.reason)
    (path : Text) : '\n' ∉ failure.message path := by
  have digits := lineFeed_not_mem_toDigits (by decide : 1 < 10)
  unfold message
  simp only [List.mem_append, digits, whole, Quoted.lineFeed_not_mem_encode, or_false]
  decide +kernel

end CommandLine.OpenFailure

end InlineDice
