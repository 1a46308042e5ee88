import InlineDice.Processor.Basic
import InlineDice.Text.Lines

namespace InlineDice.Summary

/-- Tabulators become spaces up to the next multiple of eight columns. -/
def expandTabs (column : Nat) : Text → Text
  | [] => []
  | c :: rest =>
    if c = '\t' then
      let width := 8 - column % 8
      List.replicate width ' ' ++ expandTabs (column + width) rest
    else c :: expandTabs (if Text.isLineEnd c then 0 else column + 1) rest

/-- How far a line is indented, unless it is blank. -/
def indent? (line : Text) : Option Nat :=
  if line.isBlank then none else some (line.takeWhile isBlank).length

/-- Lines with the blanks before the first one removed, and before the others as many as all of
them that are not blank have in common. -/
def dedent : List Text → List Text
  | [] => []
  | first :: rest =>
    first.trimStart isBlank ::
      match (rest.filterMap indent?).min? with
      | none => rest
      | some margin => rest.map (·.drop margin)

/-- Empty lines are dropped at both ends. -/
def dropEmptyEnds (lines : List Text) : List Text :=
  ((lines.dropWhile List.isEmpty).reverse.dropWhile List.isEmpty).reverse

/-- A documentation text laid out to be read: its tabulators expanded, its common indentation and
the empty lines around it removed. -/
def tidy (doc : Text) : Text :=
  Text.join ['\n'] (dropEmptyEnds (dedent ((expandTabs 0 doc).splitOn '\n')))

/-- The first line of a processor's documentation, empty without one. -/
def ofProcessor (p : Processor) : Text :=
  match p.doc with
  | none => []
  | some doc => (tidy doc).firstLine

end InlineDice.Summary
