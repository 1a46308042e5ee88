import InlineDice.Text.Blank

namespace InlineDice

/-- A number with a decimal point or a power of ten: `significand * 10 ^ exponent`, or the negative of
it. Zero has a sign as well. -/
structure Decimal where
  negative : Bool
  significand : Nat
  exponent : Int
  deriving DecidableEq, Repr

namespace Decimal

/-- The digits of a number from the first to the last that is not zero. Zero has the one digit. -/
def digits (d : Decimal) : Text :=
  match Text.trimEnd (· == '0') (Nat.toDigits 10 d.significand) with
  | [] => ['0']
  | digits => digits

/-- The power of ten at which the first digit stands. -/
def leading (d : Decimal) : Int :=
  if d.significand = 0 then 0
  else d.exponent + (Nat.toDigits 10 d.significand).length - 1

/-- Digits with a point after the one at the power zero, and at least one digit on either side of it.
The first digit stands at the power `leading`. -/
def positional (leading : Int) (digits : Text) : Text :=
  let padded := List.replicate (-leading).toNat '0' ++ digits
  let front := leading.toNat + 1
  let back := padded.drop front
  padded.take front ++ List.replicate (front - padded.length) '0' ++ ['.'] ++
    if back = [] then ['0'] else back

/-- Digits with a point after the first one, unless it is the only one, and then the power of the first
one with its sign and at least two digits. -/
def scientific (leading : Int) (digits : Text) : Text :=
  let power := Nat.toDigits 10 leading.natAbs
  let back := digits.drop 1
  digits.take 1 ++ (if back = [] then [] else '.' :: back) ++ ['e', if leading < 0 then '-' else '+'] ++
    List.replicate (2 - power.length) '0' ++ power

/-- Powers of ten are written out from the fourth below the point to the sixteenth above it. -/
def shown (d : Decimal) : Text :=
  (if d.negative then ['-'] else []) ++
    if -4 ≤ d.leading ∧ d.leading < 16 then positional d.leading d.digits
    else scientific d.leading d.digits

end Decimal

end InlineDice
