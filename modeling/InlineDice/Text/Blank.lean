namespace InlineDice

/-- A text is the list of its code points, so every length counts code points. -/
abbrev Text := List Char

/-- The 29 blanks of Unicode: spaces, tabs, line and paragraph ends, and the
four information separators U+001C to U+001F. -/
def isBlank (c : Char) : Bool :=
  let n := c.toNat
  (9 ≤ n && n ≤ 13) || (28 ≤ n && n ≤ 32) || n == 0x85 || n == 0xA0 || n == 0x1680 ||
    (0x2000 ≤ n && n ≤ 0x200A) || n == 0x2028 || n == 0x2029 || n == 0x202F || n == 0x205F ||
    n == 0x3000

/-- Dice tokens stand apart by blanks and commas, in any mixture. -/
def isSeparator (c : Char) : Bool := c == ',' || isBlank c

namespace Text

def trimStart (drop : Char → Bool) (s : Text) : Text := s.dropWhile drop

def trimEnd (drop : Char → Bool) (s : Text) : Text := (s.reverse.dropWhile drop).reverse

/-- Removes the maximal runs of `drop` at both ends and nothing between them. -/
def trim (drop : Char → Bool) (s : Text) : Text := trimEnd drop (trimStart drop s)

/-- Blanks only, or nothing at all. -/
def isBlank (s : Text) : Bool := s.all InlineDice.isBlank

/-- The parts with `gap` between neighbours. -/
def join (gap : Text) : List Text → Text
  | [] => []
  | [s] => s
  | s :: t :: rest => s ++ gap ++ join gap (t :: rest)

/-- Spaces fill `s` up to `width` on the right. A text that is wide enough stays
as it is, and so does every text under a negative width. -/
def padRight (width : Int) (s : Text) : Text :=
  s ++ List.replicate (width - s.length).toNat ' '

/-- An integer in decimal digits, after a minus sign if it is negative. -/
def ofInt : Int → Text
  | .ofNat n => Nat.toDigits 10 n
  | .negSucc n => '-' :: Nat.toDigits 10 (n + 1)

end Text

theorem isSeparator_of_isBlank {c : Char} (blank : isBlank c = true) : isSeparator c = true := by
  simp [isSeparator, blank]

theorem isDigit_iff {c : Char} : c.isDigit = true ↔ 48 ≤ c.toNat ∧ c.toNat ≤ 57 := by
  simp only [Char.isDigit, Bool.and_eq_true, decide_eq_true_eq, ge_iff_le, UInt32.le_iff_toNat_le]
  exact Iff.rfl

/-- No digit separates: a run of digits lies within one token. -/
theorem isSeparator_eq_false_of_isDigit {c : Char} (digit : c.isDigit = true) :
    isSeparator c = false := by
  have bounds := isDigit_iff.mp digit
  have notComma : c ≠ ',' := by
    rintro rfl
    exact absurd bounds.1 (by decide)
  simp only [isSeparator, isBlank, beq_eq_false_iff_ne.mpr notComma, Bool.false_or]
  simp
  omega

end InlineDice
