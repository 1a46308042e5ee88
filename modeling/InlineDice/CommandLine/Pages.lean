import InlineDice.Text.Blank

namespace InlineDice.CommandLine.Pages

def usage : Text := "usage: dicemode [-h] [--verbose] [--seed SEED] <command> ...\n".toList

def page : Text := usage ++ "
Roll dice written inline in plain text.

positional arguments:
  <command>
    roll         Roll dice notation and print the report
    expand       Replace every dice line of a document
    serve        Run the HTTP API

options:
  -h, --help     show this help message and exit
  --verbose, -v  Log debug output to stderr
  --seed SEED    Seed the random source

dicemode command line.

    dicemode roll 2d6, 1d4+        print the report for some dice
    dicemode expand notes.txt      roll every dice line of a file (or stdin)
    dicemode serve                 run the HTTP API
".toList

def rollUsage : Text := "usage: dicemode roll [-h] text [text ...]\n".toList

def rollPage : Text := rollUsage ++ "
positional arguments:
  text        Dice instructions, e.g. 2d6 d20+

options:
  -h, --help  show this help message and exit
".toList

def expandUsage : Text := "usage: dicemode expand [-h] [--strict] [file]\n".toList

def expandPage : Text := expandUsage ++ "
positional arguments:
  file        Input file (default: stdin)

options:
  -h, --help  show this help message and exit
  --strict    Fail on any non-blank, non-dice line
".toList

def serveUsage : Text := "usage: dicemode serve [-h] [--host HOST] [--port PORT]\n".toList

def servePage : Text := serveUsage ++ "
options:
  -h, --help            show this help message and exit
  --host HOST           Override listen host
  --port PORT, -p PORT  Override listen port
".toList

end InlineDice.CommandLine.Pages
