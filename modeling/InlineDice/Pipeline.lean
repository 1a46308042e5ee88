import InlineDice.Notation.Line
import InlineDice.Notation.Token
import InlineDice.Play
import InlineDice.Registry.Basic
import InlineDice.Report
import InlineDice.Text.Lines

namespace InlineDice

open Notation

/-- What turns dice text into reports: the processors at hand, the least width of the column of
names, and the label of aggregates. -/
structure Pipeline where
  registry : Registry
  nameWidthFloor : Int
  label : Text

/-- A document after expansion, and how many of its lines were replaced. -/
structure Expanded where
  text : Text
  replaced : Nat
  deriving DecidableEq, Repr

namespace Pipeline

variable {σ : Type} [RandomSource σ]

def default : Pipeline := ⟨.builtin, 0, Report.defaultLabel⟩

/-- All tokens of a text. The first bad one from the left fails it, and so does having none. -/
def tokens (p : Pipeline) (text : Text) : Except Fault (List Token) := do
  let tokens ← (tokenize text).mapM (Token.parse p.registry.contains)
  if tokens = [] then throw (.malformedLine text)
  return tokens

def layout (p : Pipeline) (tokens : List Token) : Layout :=
  .of p.nameWidthFloor (tokens.map fun token => (token.name, (token.count : Int)))

/-- Rolls the dice of one token and processes them. -/
def rollToken (p : Pipeline) (token : Token) : Play σ Instruction := do
  let rolls ← InlineDice.roll token.count token.faces
  let applied ← Play.ofExcept (p.registry.apply (token.processor.map fun symbol => .text [symbol]) rolls)
  return ⟨token.name, applied.result⟩

/-- Rolls token by token; each is processed before the next is rolled. -/
def rollTokens (p : Pipeline) : List Token → Play σ (List Instruction)
  | [] => pure []
  | token :: rest => do
    let instruction ← p.rollToken token
    (instruction :: ·) <$> p.rollTokens rest

/-- The report on all dice of a text. Every token is read before any die is rolled. -/
def roll (p : Pipeline) (text : Text) : Play σ Text := do
  let tokens ← Play.ofExcept (p.tokens text)
  let instructions ← p.rollTokens tokens
  let layout := p.layout tokens
  Play.note (.rolled instructions.length layout.plural)
  Play.ofExcept (Report.write p.label layout instructions)

/-- The report on a dice line, and nothing for any other text. -/
def transform (p : Pipeline) (span : Text) : Play σ (Option Text) :=
  match recognize span with
  | none => pure none
  | some dice => some <$> p.roll dice

/-- The report that is to replace a line. Any other line than a dice line stays, or is a fault if
`strict`. -/
def replaceLine (p : Pipeline) (strict : Bool) (line : Text) : Play σ (Option Text) := do
  match ← p.transform line with
  | some report => return some report
  | none => if strict then .fail (.malformedLine line) else return none

/-- Hands the report that is to replace a line to a host, and tells whether there was one. What the
host does then is up to it, also on the source. -/
def replaceLineBy {η : Type} (p : Pipeline) (replace : Text → Play (σ × η) Unit) (strict : Bool)
    (line : Text) : Play (σ × η) Bool := do
  match ← (p.transform line).beside with
  | some report =>
    replace report
    return true
  | none => if strict then .fail (.malformedLine line) else return false

/-- What replaces a line of a document: the report without its last line feed, under the line's own
ending. Blank lines stay even if `strict`. -/
def expandLine (p : Pipeline) (strict : Bool) (line : Text) : Play σ (Option Text) :=
  let content := Text.lineContent line
  if strict && content.isBlank then pure none
  else
    (·.map fun report => report.dropLast ++ Text.lineEnding line) <$> p.replaceLine strict content

/-- A document after expansion that begins with a line, which is replaced by a report or stays. -/
def withLine (line : Text) (report : Option Text) (after : Expanded) : Expanded :=
  match report with
  | some report => ⟨report ++ after.text, after.replaced + 1⟩
  | none => ⟨line ++ after.text, after.replaced⟩

/-- Expands line by line on one source. -/
def expandLines (p : Pipeline) (strict : Bool) : List Text → Play σ Expanded
  | [] => pure ⟨[], 0⟩
  | line :: rest => do
    let report ← p.expandLine strict line
    withLine line report <$> p.expandLines strict rest

/-- Replaces every dice line of a document by its report. -/
def expand (p : Pipeline) (strict : Bool) (text : Text) : Play σ Expanded := do
  let expanded ← p.expandLines strict (Text.lines text)
  Play.note (.expanded expanded.replaced)
  return expanded

end Pipeline

end InlineDice
