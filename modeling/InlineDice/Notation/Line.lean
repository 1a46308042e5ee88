import InlineDice.Text.Blank

namespace InlineDice.Notation

/-- Where reading a dice line stands after some of its characters. -/
inductive Progress where
  /-- Nothing but separators so far. -/
  | start
  /-- In the digits before the `d` of a token. -/
  | count
  /-- After the `d`, before any digit of the faces. -/
  | die
  /-- In the digits of the faces. -/
  | faces
  /-- After the processor character. -/
  | processor
  /-- In the separators after a token. -/
  | gap
  /-- No dice line begins like this. -/
  | refused
  deriving DecidableEq, Repr

namespace Progress

/-- The start of a token. -/
def opening (c : Char) : Progress :=
  if c.isDigit then count else if c = 'd' then die else refused

def next : Progress → Char → Progress
  | start, c => if isSeparator c then start else opening c
  | count, c => opening c
  | die, c => if c.isDigit then faces else refused
  | faces, c => if c.isDigit then faces else if isSeparator c then gap else processor
  | processor, c => if isSeparator c then gap else refused
  | gap, c => if isSeparator c then gap else opening c
  | refused, _ => refused

/-- At least one token has been read and none is left unfinished. -/
def isComplete : Progress → Bool
  | faces | processor | gap => true
  | _ => false

end Progress

/-- A dice line holds tokens and separators only, and at least one token. -/
def isDiceLine (s : Text) : Bool := (s.foldl Progress.next .start).isComplete

/-- The tokens of a dice line with what stands between them, without the separators around them. -/
def recognize (s : Text) : Option Text :=
  if isDiceLine s then some (s.trim isSeparator) else none

/-- The maximal runs of characters that separate nothing, in order. -/
def tokenize (s : Text) : List Text := (s.splitOnP isSeparator).filter (!·.isEmpty)

end InlineDice.Notation
