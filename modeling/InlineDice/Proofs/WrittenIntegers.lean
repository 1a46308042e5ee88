import InlineDice.Proofs.TrimmedTexts
import InlineDice.Text.Integer
import Mathlib.Data.List.Basic

namespace InlineDice

theorem digitValue?_of_isDigit {c : Char} (digit : c.isDigit = true) :
    digitValue? c = some (c.toNat - '0'.toNat) := by
  obtain ⟨lower, upper⟩ := isDigit_iff.mp digit
  have first : (48 ≤ c.toNat && c.toNat < 48 + 10) = true := by
    simp only [Bool.and_eq_true, decide_eq_true_eq]
    omega
  have zeros : decimalZeros = 48 :: decimalZeros.tail := rfl
  rw [digitValue?, zeros]
  simp only [List.find?_cons, first]
  rfl

theorem ne_underscore_of_isDigit {c : Char} (digit : c.isDigit = true) : c ≠ '_' := by
  rintro rfl
  exact absurd digit (by decide)

namespace Integer

theorem digits?_of_isDigit {s : Text} (nonempty : s ≠ []) (all : ∀ c ∈ s, c.isDigit = true) :
    digits? s = some (s.map fun c => c.toNat - '0'.toNat) := by
  induction s with
  | nil => exact absurd rfl nonempty
  | cons c rest ih =>
    obtain ⟨digit, later⟩ := List.forall_mem_cons.mp all
    have value := digitValue?_of_isDigit digit
    cases rest with
    | nil => simp [digits?, value]
    | cons d rest =>
      have plain : d ≠ '_' := ne_underscore_of_isDigit (later d List.mem_cons_self)
      have tail := ih (List.cons_ne_nil d rest) later
      rw [digits?]
      · simp only [value, tail]
        rfl
      · simp
      · rintro _ same
        exact plain (List.cons.inj same).1

theorem magnitude?_toDigits {n : Nat} (few : n < Nat.pow 10 numeralLimit) :
    magnitude? (Nat.toDigits 10 n) = some n := by
  have all : ∀ c ∈ Nat.toDigits 10 n, c.isDigit = true := fun c member =>
    Nat.isDigit_of_mem_toDigits (by decide) (by decide) member
  have fits : ∀ k, 0 < k → n < Nat.pow 10 k → (Nat.toDigits 10 n).length ≤ k :=
    fun _ positive small => (Nat.length_toDigits_le_iff (by decide) positive).mpr small
  have short := fits numeralLimit (by decide) few
  have value : ((Nat.toDigits 10 n).map fun c => c.toNat - '0'.toNat).foldl
      (fun n d => 10 * n + d) 0 = n := by
    rw [List.foldl_map]
    exact Nat.ofDigitChars_ten_toDigits
  unfold magnitude?
  rw [digits?_of_isDigit Nat.toDigits_ne_nil all]
  simp only [Option.bind_eq_bind, Option.bind_some, List.length_map, short, if_true, value]

theorem isPadding_eq_false_of_isDigit {c : Char} (digit : c.isDigit = true) :
    isPadding c = false := by
  have solid := isSeparator_eq_false_of_isDigit digit
  have visible : isBlank c = false :=
    Bool.eq_false_iff.mpr fun blank => by simp [isSeparator_of_isBlank blank] at solid
  rw [isPadding, visible, Bool.false_and]

/-- What is written without padding is read as it stands. -/
theorem trim_eq_self {s : Text} (nonempty : s ≠ []) (plain : ∀ c ∈ s, isPadding c = false) :
    Text.trim isPadding s = s := by
  have core : Text.IsCore isPadding s s := ⟨[], [], by simp, by simp, by simp,
    fun c first => plain c (List.mem_of_mem_head? first),
    fun c last => plain c (List.mem_of_getLast? last)⟩
  exact core.trim_eq nonempty

/-- An integer that can be written is read back from its decimal digits. -/
theorem read?_ofInt {n : Int} (writable : isWritable n = true) : read? (Text.ofInt n) = some n := by
  simp only [isWritable, decide_eq_true_eq] at writable
  have plain : ∀ m, ∀ c ∈ Nat.toDigits 10 m, isPadding c = false := fun m c member =>
    isPadding_eq_false_of_isDigit (Nat.isDigit_of_mem_toDigits (by decide) (by decide) member)
  cases n with
  | ofNat n =>
    rw [Int.ofNat_eq_natCast, Int.natAbs_natCast] at writable
    have read : magnitude? (Nat.toDigits 10 n) = some n := magnitude?_toDigits writable
    have trimmed := trim_eq_self Nat.toDigits_ne_nil (plain n)
    have unsigned : ∀ c ∈ Nat.toDigits 10 n, c ≠ '-' ∧ c ≠ '+' := by
      intro c member
      have digit := Nat.isDigit_of_mem_toDigits (by decide) (by decide) member
      constructor <;> rintro rfl <;> exact absurd digit (by decide)
    rw [Text.ofInt, read?, trimmed]
    split
    · next signed => exact absurd rfl (unsigned '-' (signed ▸ List.mem_cons_self)).1
    · next signed => exact absurd rfl (unsigned '+' (signed ▸ List.mem_cons_self)).2
    · rw [read]
      rfl
  | negSucc n =>
    rw [Int.natAbs_negSucc, Nat.succ_eq_add_one] at writable
    have read : magnitude? (Nat.toDigits 10 (n + 1)) = some (n + 1) := magnitude?_toDigits writable
    have trimmed := trim_eq_self (List.cons_ne_nil '-' (Nat.toDigits 10 (n + 1)))
      (List.forall_mem_cons.mpr ⟨by decide, plain _⟩)
    rw [Text.ofInt, read?, trimmed]
    simp only [read]
    rfl

end Integer

end InlineDice
