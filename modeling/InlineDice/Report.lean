import InlineDice.Fault
import InlineDice.Processor.Basic

namespace InlineDice

/-- A rolled and processed token. -/
structure Instruction where
  name : Text
  result : ProcessedRolls
  deriving DecidableEq, Repr

/-- How a report is laid out: the width of its column of names, and whether it is about more than one
die. -/
structure Layout where
  nameWidth : Int
  plural : Bool
  deriving DecidableEq, Repr

/-- The column is as wide as the longest name and at least `floor`; the counts of dice add up. -/
def Layout.of (floor : Int) (instructions : List (Text × Int)) : Layout :=
  ⟨instructions.foldl (fun width i => max width i.1.length) floor,
    decide (1 < instructions.foldl (fun count i => count + i.2) 0)⟩

namespace Report

def header (plural : Bool) : Text := if plural then "Rolls:".toList else "Roll:".toList

/-- An entry of the left column, after a mark of two characters and before the separator. -/
def column (mark : String) (width : Int) (entry : Text) : Text :=
  mark.toList ++ entry.padRight width ++ " :: ".toList

def bulletLine (width : Int) (name : Text) (rolls : List Int) : Text :=
  column "- " width name ++ "[ ".toList ++ Text.join ", ".toList (rolls.map Text.ofInt) ++
    " ]".toList

def aggregateLine (width : Int) (label : Text) (aggregate : Int) : Text :=
  column "  " width label ++ Text.ofInt aggregate

/-- The rolls of an instruction, and its aggregate if it has one. -/
def detailLines (label : Text) (width : Int) (i : Instruction) : List Text :=
  bulletLine width i.name i.result.rolls ::
    (i.result.aggregate.map (aggregateLine width label)).toList

def lines (label : Text) (layout : Layout) (instructions : List Instruction) : List Text :=
  header layout.plural :: instructions.flatMap (detailLines label layout.nameWidth)

/-- The report as a text: every line ends with a line feed. -/
def render (label : Text) (layout : Layout) (instructions : List Instruction) : Text :=
  (lines label layout instructions).flatMap (· ++ ['\n'])

/-- The first width that cannot be asked for. -/
def widthLimit : Int := 0x8000000000000000

/-- The widths that can be asked for are signed words of 64 bits. -/
def isWidth (width : Int) : Bool := -widthLimit ≤ width && width < widthLimit

/-- What keeps the lines of an instruction from being written: a roll of too many digits, then the width
of the column, then an aggregate of too many digits. -/
def fault? (width : Int) (i : Instruction) : Option Fault :=
  if !i.result.rolls.all Integer.isWritable then some .numberTooLong
  else if !isWidth width then some .columnTooWide
  else if !i.result.aggregate.all Integer.isWritable then some .numberTooLong
  else none

/-- Writes a report, or tells what first keeps it from being written. -/
def write (label : Text) (layout : Layout) (instructions : List Instruction) : Except Fault Text :=
  match instructions.findSome? (fault? layout.nameWidth) with
  | some fault => .error fault
  | none => .ok (render label layout instructions)

theorem write_eq_ok_iff {label report : Text} {layout : Layout} {instructions : List Instruction} :
    write label layout instructions = .ok report ↔
      (∀ i ∈ instructions, fault? layout.nameWidth i = none) ∧
        render label layout instructions = report := by
  unfold write
  split
  · next fault found =>
    have some : ¬∀ i ∈ instructions, fault? layout.nameWidth i = none := by
      rw [← List.findSome?_eq_none_iff, found]
      exact Option.some_ne_none fault
    simp [some]
  · next none =>
    rw [List.findSome?_eq_none_iff] at none
    simp only [Except.ok.injEq]
    exact ⟨fun same => ⟨none, same⟩, And.right⟩

/-- The label of aggregates where none is chosen. -/
def defaultLabel : Text := ['Σ']

end Report

/-- A count with its noun, in the plural unless the count is one. -/
def counted (count : Int) (noun : Text) : Text :=
  Text.ofInt count ++ [' '] ++ noun ++ (if count = 1 then [] else ['s'])

end InlineDice
