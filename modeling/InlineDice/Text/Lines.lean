import InlineDice.Text.Blank

namespace InlineDice.Text

/-- The lines of a document, each with its line feed. Only a line feed ends a line, and an
unterminated last line is a line unless it is empty. -/
def lines : Text → List Text
  | [] => []
  | c :: rest =>
    if c = '\n' then [c] :: lines rest
    else match lines rest with
      | [] => [[c]]
      | line :: more => (c :: line) :: more

/-- Carriage returns and line feeds, which belong to the ending of a line. -/
def isLineEnd (c : Char) : Bool := c == '\n' || c == '\r'

/-- A line without its ending. -/
def lineContent (line : Text) : Text := trimEnd isLineEnd line

/-- The maximal run of line ends at the end of a line. -/
def lineEnding (line : Text) : Text := line.drop (lineContent line).length

/-- Reading in text mode: a carriage return, with a line feed after it or alone, is a line feed. -/
def unifyLineEnds : Text → Text
  | [] => []
  | '\r' :: '\n' :: rest => '\n' :: unifyLineEnds rest
  | c :: rest => (if c = '\r' then '\n' else c) :: unifyLineEnds rest

/-- The characters that end a line where a text is shown: besides the line ends also the tabulation
and form feed, three information separators, and the line and paragraph separators of Unicode. -/
def breaksLine (c : Char) : Bool :=
  let n := c.toNat
  (10 ≤ n && n ≤ 13) || (28 ≤ n && n ≤ 30) || n == 0x85 || n == 0x2028 || n == 0x2029

/-- The first line of a text as it is shown. -/
def firstLine (s : Text) : Text := s.takeWhile (!breaksLine ·)

theorem lineContent_append_lineEnding (line : Text) :
    lineContent line ++ lineEnding line = line := by
  have isPrefix : lineContent line <+: line := by
    unfold lineContent trimEnd
    rw [← List.reverse_suffix, List.reverse_reverse]
    exact List.dropWhile_suffix _
  exact List.prefix_iff_eq_append.mp isPrefix

end InlineDice.Text
