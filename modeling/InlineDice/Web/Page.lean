import InlineDice.Report

namespace InlineDice.Web

/-- What stands in a page for a character of a shown text: the five characters of markup by their
entities, any other one by itself. -/
def escapeChar (c : Char) : Text :=
  if c = '&' then "&amp;".toList
  else if c = '<' then "&lt;".toList
  else if c = '>' then "&gt;".toList
  else if c = '\'' then "&#39;".toList
  else if c = '"' then "&#34;".toList
  else [c]

def escape (s : Text) : Text := s.flatMap escapeChar

/-- A page is made of markup that is its own and of texts that it shows. -/
inductive Piece where
  | markup (s : String)
  | shown (s : Text)
  deriving DecidableEq

def Piece.render : Piece → Text
  | markup s => s.toList
  | shown s => escape s

/-- What a page says about the submitted text. -/
inductive Finding where
  | none
  | error (message : Text)
  | result (text : Text) (replaced : Nat)
  deriving DecidableEq

/-- Everything that a page depends on. -/
structure Page where
  text : Text
  strict : Bool
  finding : Finding
  processors : List (Char × Text)
  environment : Text
  deriving DecidableEq

namespace Page

def head : String := "<!DOCTYPE html>
<html lang=\"en\">
<head>
  <meta charset=\"utf-8\">
  <title>dicemode</title>
  <style>
    body \x7b font-family: sans-serif; max-width: 48rem; margin: 2rem auto; \x7d
    textarea, pre \x7b width: 100%; font-family: monospace; \x7d
    .error \x7b color: #a00; \x7d
  </style>
</head>
<body>
  <h1>dicemode</h1>
  <p>Type dice lines such as <code>2d6, d20+</code>. Every line made only of dice is replaced by its rolls.</p>

  <form method=\"post\" action=\"/\">
    <textarea name=\"text\" rows=\"10\">"

def strictBox (strict : Bool) : String :=
  "</textarea>
    <label><input type=\"checkbox\" name=\"strict\" value=\"true\" " ++
    (if strict then "checked" else "") ++
    "> strict (every non-blank line must be dice)</label>
    <button type=\"submit\">Roll</button>
  </form>

  "

def findingPieces : Finding → List Piece
  | .none => []
  | .error message => [.markup "\n  <p class=\"error\">", .shown message, .markup "</p>\n  "]
  | .result text replaced =>
    [.markup "\n  <h2>Result (", .shown (counted replaced "line".toList),
      .markup " rolled)</h2>\n  <pre>", .shown text, .markup "</pre>\n  "]

def processorPieces (row : Char × Text) : List Piece :=
  [.markup "\n    <tr><td><code>", .shown [row.1], .markup "</code></td><td>", .shown row.2,
    .markup "</td></tr>\n    "]

/-- The page piece by piece. -/
def pieces (page : Page) : List Piece :=
  [.markup head, .shown page.text, .markup (strictBox page.strict)] ++ findingPieces page.finding ++
    [.markup "\n\n  <h2>Processors</h2>\n  <table>\n    "] ++
    page.processors.flatMap processorPieces ++
    [.markup "\n  </table>\n\n  <footer><small>", .shown page.environment,
      .markup "</small></footer>\n</body>\n</html>"]

def render (page : Page) : Text := page.pieces.flatMap Piece.render

end Page

end InlineDice.Web
