import InlineDice.Text.Blank

namespace InlineDice.Utf8

/-- Why bytes are no UTF-8. -/
inductive Flaw
  | startByte
  | continuationByte
  | cutShort
  deriving DecidableEq, Repr

def Flaw.message : Flaw → Text
  | .startByte => "invalid start byte".toList
  | .continuationByte => "invalid continuation byte".toList
  | .cutShort => "unexpected end of data".toList

/-- The place of the first flaw: its first byte, that byte's offset, and how many bytes it spans. -/
structure Failure where
  flaw : Flaw
  byte : UInt8
  offset : Nat
  span : Nat
  deriving DecidableEq, Repr

def Failure.message (f : Failure) : Text :=
  let place :=
    if f.span = 1 then
      "byte 0x".toList ++ List.replicate (2 - (Nat.toDigits 16 f.byte.toNat).length) '0' ++
        Nat.toDigits 16 f.byte.toNat ++ " in position ".toList ++ Nat.toDigits 10 f.offset
    else
      "bytes in position ".toList ++ Nat.toDigits 10 f.offset ++ "-".toList ++
        Nat.toDigits 10 (f.offset + f.span - 1)
  "'utf-8' codec can't decode ".toList ++ place ++ ": ".toList ++ f.flaw.message

/-- How many continuation bytes follow a start byte, and the range of the first of them. The range
leaves out overlong forms, surrogates and numbers beyond the last code point. -/
def follow? (b : UInt8) : Option (Nat × UInt8 × UInt8) :=
  if b < 0x80 then some (0, 0x80, 0xBF)
  else if b < 0xC2 then none
  else if b < 0xE0 then some (1, 0x80, 0xBF)
  else if b = 0xE0 then some (2, 0xA0, 0xBF)
  else if b = 0xED then some (2, 0x80, 0x9F)
  else if b < 0xF0 then some (2, 0x80, 0xBF)
  else if b = 0xF0 then some (3, 0x90, 0xBF)
  else if b < 0xF4 then some (3, 0x80, 0xBF)
  else if b = 0xF4 then some (3, 0x80, 0x8F)
  else none

/-- The bits that a start byte of `more` continuation bytes brings to its code point. -/
def startBits (more : Nat) (b : UInt8) : Nat :=
  match more with
  | 0 => b.toNat
  | 1 => b.toNat % 32
  | 2 => b.toNat % 16
  | _ => b.toNat % 8

/-- Reads `more` continuation bytes onto the code point begun by `bits`; `taken` bytes of the
character stand before them and the next has to lie between `low` and `high`. A failure tells the
flaw and how many bytes it spans. -/
def finish (more : Nat) (low high : UInt8) (taken bits : Nat) :
    List UInt8 → Except (Flaw × Nat) (Char × List UInt8)
  | rest => match more, rest with
    | 0, rest => .ok (Char.ofNat bits, rest)
    | _ + 1, [] => .error (.cutShort, taken)
    | more + 1, b :: rest =>
      if low ≤ b && b ≤ high then
        finish more 0x80 0xBF (taken + 1) (bits * 64 + b.toNat % 64) rest
      else .error (.continuationByte, taken)

theorem finish_length {more taken bits : Nat} {low high : UInt8} {bytes rest : List UInt8} {c : Char}
    (read : finish more low high taken bits bytes = .ok (c, rest)) : rest.length ≤ bytes.length := by
  induction more generalizing low high taken bits bytes with
  | zero =>
    simp only [finish, Except.ok.injEq, Prod.mk.injEq] at read
    simp [read.2]
  | succ more ih =>
    cases bytes with
    | nil => simp [finish] at read
    | cons b bytes =>
      simp only [finish] at read
      split at read
      · exact Nat.le_succ_of_le (ih read)
      · simp at read

/-- Reads UTF-8 from `offset` on, up to the first flaw. -/
def decodeFrom (offset : Nat) (bytes : List UInt8) : Except Failure Text :=
  match bytes with
  | [] => .ok []
  | b :: after =>
    match follow? b with
    | none => .error ⟨.startByte, b, offset, 1⟩
    | some (more, low, high) =>
      match read : finish more low high 1 (startBits more b) after with
      | .error (flaw, span) => .error ⟨flaw, b, offset, span⟩
      | .ok (c, rest) => (decodeFrom (offset + 1 + more) rest).map (c :: ·)
termination_by bytes.length
decreasing_by
  have shorter := finish_length read
  simp only [List.length_cons]
  omega

/-- The text that the bytes spell, or the first place where they spell none. -/
def decode (bytes : List UInt8) : Except Failure Text := decodeFrom 0 bytes

end InlineDice.Utf8
