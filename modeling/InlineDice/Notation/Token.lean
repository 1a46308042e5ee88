import InlineDice.Fault

namespace InlineDice.Notation

/-- One dice instruction: how many dice of how many faces, and what processes their rolls. The name
is the instruction as written, always with its count. -/
structure Token where
  name : Text
  count : Nat
  faces : Nat
  processor : Option Char
  deriving DecidableEq, Repr

/-- The value of a run of digits. A run beyond the numeral limit is refused, zeros in front
included. -/
def numeral (digits : Text) : Except Fault Nat :=
  if digits.length ≤ numeralLimit then .ok (Nat.ofDigitChars 10 digits 0)
  else .error (.numeralTooLong digits.length)

/-- The digits of a run that count for its value. -/
def significant (digits : Text) : Text := digits.dropWhile (· == '0')

/-- A token taken apart: the digits of its count, of its faces, and all that follows them. -/
structure Parts where
  count : Text
  faces : Text
  rest : Text
  deriving DecidableEq, Repr

/-- Digits, a `d` and at least one more digit, each run as long as it can be. -/
def Parts.of? (token : Text) : Option Parts :=
  match token.dropWhile Char.isDigit with
  | 'd' :: after =>
    if after.takeWhile Char.isDigit = [] then none
    else some ⟨token.takeWhile Char.isDigit, after.takeWhile Char.isDigit,
      after.dropWhile Char.isDigit⟩
  | _ => none

/-- A rest of several characters, or more significant digits than the limits have. These flaws show
before any run is given a value. -/
def Parts.sizeFlaw? (parts : Parts) : Option TokenFlaw :=
  if 1 < parts.rest.length then some (.trailing parts.rest)
  else if (Nat.toDigits 10 maxDice).length < (significant parts.count).length then
    some .countTooLong
  else if (Nat.toDigits 10 maxFaces).length < (significant parts.faces).length then
    some .facesTooLong
  else none

/-- A token without count rolls one die. -/
def Parts.countValue (parts : Parts) : Except Fault Nat :=
  if parts.count = [] then .ok 1 else numeral parts.count

/-- Between one die and `maxDice`, and between one face and `maxFaces`. -/
def rangeFlaw? (count faces : Nat) : Option TokenFlaw :=
  if maxDice < count then some (.tooManyDice count)
  else if maxFaces < faces then some (.tooManyFaces faces)
  else if count = 0 then some .noDice
  else if faces = 0 then some .noFaces
  else none

/-- Reads one token; `known` holds the processor symbols in use. -/
def Token.parse (known : Char → Bool) (token : Text) : Except Fault Token :=
  match Parts.of? token with
  | none => .error (.malformedToken token .missingFaces)
  | some parts =>
    match parts.sizeFlaw? with
    | some flaw => .error (.malformedToken token flaw)
    | none => do
      let count ← parts.countValue
      let faces ← numeral parts.faces
      let name := if parts.count = [] then '1' :: token else token
      match rangeFlaw? count faces, parts.rest.head? with
      | some flaw, _ => .error (.malformedToken token flaw)
      | none, none => .ok ⟨name, count, faces, none⟩
      | none, some symbol =>
        if known symbol then .ok ⟨name, count, faces, some symbol⟩
        else .error (.unknownProcessor (.text [symbol]))

end InlineDice.Notation
