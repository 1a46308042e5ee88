import InlineDice.Text.Printable

namespace InlineDice.Quoted

def apostrophe : Char := '\''

def doubleQuote : Char := '"'

/-- Apostrophes stand around a text unless it holds one and no double quote. -/
def mark (s : Text) : Char :=
  if s.contains apostrophe && !s.contains doubleQuote then doubleQuote else apostrophe

/-- `n` in lower-case hexadecimal digits, filled up with zeros to `width`. -/
def hex (width n : Nat) : Text :=
  let digits := Nat.toDigits 16 n
  List.replicate (width - digits.length) '0' ++ digits

/-- What stands for `c` between two marks. A character that does not print is written by its
number, in the shortest of the widths two, four and eight that holds it. -/
def escape (mark c : Char) : Text :=
  if c = '\\' ∨ c = mark then ['\\', c]
  else if c = '\n' then ['\\', 'n']
  else if c = '\r' then ['\\', 'r']
  else if c = '\t' then ['\\', 't']
  else if isPrintable c then [c]
  else if c.toNat < 0x100 then '\\' :: 'x' :: hex 2 c.toNat
  else if c.toNat < 0x10000 then '\\' :: 'u' :: hex 4 c.toNat
  else '\\' :: 'U' :: hex 8 c.toNat

/-- The quoted form of a text, as messages show it: one line of printable characters. -/
def encode (s : Text) : Text := mark s :: s.flatMap (escape (mark s)) ++ [mark s]

end InlineDice.Quoted
