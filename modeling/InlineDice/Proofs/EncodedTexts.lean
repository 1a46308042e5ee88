import InlineDice.Text.Utf8
import Mathlib.Tactic.SplitIfs

namespace InlineDice.Utf8

/-- The bytes of a text. -/
def encode (text : Text) : List UInt8 := text.flatMap String.utf8EncodeChar

theorem follow?_one : ∀ k < 128, follow? (UInt8.ofNat k) = some (0, 0x80, 0xBF) := by
  decide +kernel

theorem follow?_two : ∀ k < 32, 2 ≤ k → follow? (UInt8.ofNat (k + 192)) = some (1, 0x80, 0xBF) := by
  decide +kernel

theorem follow?_three : ∀ k < 16, follow? (UInt8.ofNat (k + 224)) =
    some (2, UInt8.ofNat (if k = 0 then 160 else 128), UInt8.ofNat (if k = 13 then 159 else 191)) := by
  decide +kernel

theorem follow?_four : ∀ k < 5, follow? (UInt8.ofNat (k + 240)) =
    some (3, UInt8.ofNat (if k = 0 then 144 else 128), UInt8.ofNat (if k = 4 then 143 else 191)) := by
  decide +kernel

theorem startBits_of_lead :
    (∀ k < 128, startBits 0 (UInt8.ofNat k) = k) ∧
    (∀ k < 32, startBits 1 (UInt8.ofNat (k + 192)) = k) ∧
    (∀ k < 16, startBits 2 (UInt8.ofNat (k + 224)) = k) ∧
    ∀ k < 5, startBits 3 (UInt8.ofNat (k + 240)) = k := by
  decide +kernel

/-- A continuation byte brings its six bits if it lies in the range that is left to it. -/
theorem finish_continuation {more taken bits m : Nat} (low high : Nat) (rest : List UInt8)
    (lower : low ≤ m % 64 + 128) (upper : m % 64 + 128 ≤ high) (byte : high < 256) :
    finish (more + 1) (UInt8.ofNat low) (UInt8.ofNat high) taken bits
        (UInt8.ofNat (m % 64 + 128) :: rest) =
      finish more 0x80 0xBF (taken + 1) (bits * 64 + m % 64) rest := by
  have value {k : Nat} (small : k < 256) : (UInt8.ofNat k).toNat = k :=
    UInt8.toNat_ofNat_of_lt' small
  have inRange : (UInt8.ofNat low ≤ UInt8.ofNat (m % 64 + 128) &&
      UInt8.ofNat (m % 64 + 128) ≤ UInt8.ofNat high) = true := by
    simp only [Bool.and_eq_true, decide_eq_true_eq, UInt8.le_iff_toNat_le]
    rw [value byte, value (by omega), value (by omega)]
    exact ⟨lower, upper⟩
  have six : (UInt8.ofNat (m % 64 + 128)).toNat % 64 = m % 64 := by
    rw [value (by omega)]
    omega
  rw [finish, if_pos inRange, six]

theorem finish_zero (low high : UInt8) (taken bits : Nat) (rest : List UInt8) :
    finish 0 low high taken bits rest = .ok (Char.ofNat bits, rest) := by
  rw [finish]

theorem decodeFrom_cons {offset more : Nat} {b low high : UInt8} {after rest : List UInt8} {c : Char}
    (follows : follow? b = some (more, low, high))
    (finishes : finish more low high 1 (startBits more b) after = .ok (c, rest)) :
    decodeFrom offset (b :: after) = (decodeFrom (offset + 1 + more) rest).map (c :: ·) := by
  rw [decodeFrom]
  simp only [follows]
  split
  · next failed =>
    rw [finishes] at failed
    cases failed
  · next read =>
    rw [finishes] at read
    cases read
    rfl

/-- The bytes of a character are read as that character, whatever follows them. -/
theorem decodeFrom_utf8EncodeChar (offset : Nat) (c : Char) (rest : List UInt8) :
    ∃ later, decodeFrom offset (String.utf8EncodeChar c ++ rest) =
      (decodeFrom later rest).map (c :: ·) := by
  have whole : Char.ofNat c.val.toNat = c := Char.ofNat_toNat c
  have valid : c.val.toNat < 0xD800 ∨ 0xDFFF < c.val.toNat ∧ c.val.toNat < 0x110000 := c.valid
  obtain ⟨one, two, three, four⟩ := startBits_of_lead
  unfold String.utf8EncodeChar
  dsimp only
  generalize c.val.toNat = n at whole valid
  split_ifs <;> simp only [List.cons_append, List.nil_append]
  case pos =>
    refine ⟨_, decodeFrom_cons (follow?_one n (by omega)) ?_⟩
    rw [one n (by omega), finish_zero, whole]
  case pos =>
    refine ⟨_, decodeFrom_cons (follow?_two (n / 64 % 32) (by omega) (by omega)) ?_⟩
    have sum : n / 64 % 32 * 64 + n % 64 = n := by omega
    rw [two _ (by omega)]
    refine (finish_continuation 128 191 _ (by omega) (by omega) (by omega)).trans ?_
    rw [sum, finish_zero, whole]
  case pos =>
    -- The start byte keeps out numbers that two bytes would do for, and surrogates.
    refine ⟨_, decodeFrom_cons (follow?_three (n / 4096 % 16) (by omega)) ?_⟩
    have sum : (n / 4096 % 16 * 64 + n / 64 % 64) * 64 + n % 64 = n := by omega
    rw [three _ (by omega)]
    refine (finish_continuation _ _ _ (by split <;> omega) (by split <;> omega)
      (by split <;> omega)).trans ?_
    refine (finish_continuation 128 191 _ (by omega) (by omega) (by omega)).trans ?_
    rw [sum, finish_zero, whole]
  case neg =>
    refine ⟨_, decodeFrom_cons (follow?_four (n / 262144 % 8) (by omega)) ?_⟩
    have sum : ((n / 262144 % 8 * 64 + n / 4096 % 64) * 64 + n / 64 % 64) * 64 + n % 64 = n := by
      omega
    rw [four _ (by omega)]
    refine (finish_continuation _ _ _ (by split <;> omega) (by split <;> omega)
      (by split <;> omega)).trans ?_
    refine (finish_continuation 128 191 _ (by omega) (by omega) (by omega)).trans ?_
    refine (finish_continuation 128 191 _ (by omega) (by omega) (by omega)).trans ?_
    rw [sum, finish_zero, whole]

theorem decodeFrom_encode (offset : Nat) (text : Text) : decodeFrom offset (encode text) = .ok text := by
  induction text generalizing offset with
  | nil => simp [encode, decodeFrom]
  | cons c text ih =>
    obtain ⟨later, read⟩ := decodeFrom_utf8EncodeChar offset c (encode text)
    have bytes : encode (c :: text) = String.utf8EncodeChar c ++ encode text := rfl
    rw [bytes, read, ih later]
    rfl

/-- Every text is read back from its bytes. -/
theorem decode_encode (text : Text) : decode (encode text) = .ok text := decodeFrom_encode 0 text

end InlineDice.Utf8
