import InlineDice.Datum
import InlineDice.Text.Integer
import InlineDice.Text.Utf8

namespace InlineDice

/-- What is wrong with a dice token. -/
inductive TokenFlaw where
  | missingFaces
  | trailing (rest : Text)
  | countTooLong
  | facesTooLong
  | tooManyDice (count : Nat)
  | tooManyFaces (faces : Nat)
  | noDice
  | noFaces
  deriving DecidableEq

/-- The most dice one token may roll. -/
def maxDice : Nat := 1000

/-- The most faces a die may have. -/
def maxFaces : Nat := 1000000

namespace TokenFlaw

def diceLimit : Text := "(max ".toList ++ Nat.toDigits 10 maxDice ++ ")".toList

def facesLimit : Text := "(max ".toList ++ Nat.toDigits 10 maxFaces ++ ")".toList

def message : TokenFlaw → Text
  | missingFaces => "missing d/face count".toList
  | trailing rest => "unexpected trailing characters ".toList ++ Quoted.encode rest
  | countTooLong => "too many dice ".toList ++ diceLimit
  | facesTooLong => "too many faces ".toList ++ facesLimit
  | tooManyDice count => "too many dice: ".toList ++ Nat.toDigits 10 count ++ " ".toList ++ diceLimit
  | tooManyFaces faces =>
    "too many faces: ".toList ++ Nat.toDigits 10 faces ++ " ".toList ++ facesLimit
  | noDice => "dice count must be at least 1".toList
  | noFaces => "face count must be at least 1".toList

end TokenFlaw

/-- Everything that can stop a request. The first three are faults of the dice text itself, which
every host expects and reports. -/
inductive Fault where
  | malformedToken (token : Text) (flaw : TokenFlaw)
  | unknownProcessor (symbol : Datum)
  | malformedLine (line : Text)
  | numeralTooLong (digits : Nat)
  | numberTooLong
  | columnTooWide
  | countBelowOne (count : Int)
  | facesBelowOne (faces : Int)
  | symbolNotSingle (symbol : Datum)
  | symbolReserved (symbol : Char)
  | notCallable (symbol : Char)
  | notUnary (symbol : Char)
  | notRegistered (symbol : Datum)
  | notKey (kind : Text)
  | processorFailed (message : Text)
  | sourceExhausted
  | seedUnsupported
  | unknownLevel (level : Text)
  | notUtf8 (failure : Utf8.Failure)
  | undecoded (reason : Text)
  | nullInPath

namespace Fault

/-- The token as a message shows it: at most 40 code points, a longer one cut after 37. -/
def shortened (token : Text) : Text :=
  if token.length ≤ 40 then token else token.take 37 ++ "...".toList

def message : Fault → Text
  | malformedToken token flaw =>
    "Malformed dice token ".toList ++ Quoted.encode (shortened token) ++ ": ".toList ++ flaw.message
  | unknownProcessor symbol => "Unknown processor: ".toList ++ symbol.shown
  | malformedLine line => "No dice instruction on line: ".toList ++ Quoted.encode line
  | numeralTooLong digits =>
    "Exceeds the limit (".toList ++ Nat.toDigits 10 numeralLimit ++
      " digits) for integer string conversion: value has ".toList ++ Nat.toDigits 10 digits ++
      " digits; use sys.set_int_max_str_digits() to increase the limit".toList
  | numberTooLong =>
    "Exceeds the limit (".toList ++ Nat.toDigits 10 numeralLimit ++
      " digits) for integer string conversion; use sys.set_int_max_str_digits() to increase the limit".toList
  | columnTooWide => "Python int too large to convert to C ssize_t".toList
  | countBelowOne count => "Dice count must be at least 1, got ".toList ++ Text.ofInt count
  | facesBelowOne faces => "Face count must be at least 1, got ".toList ++ Text.ofInt faces
  | symbolNotSingle symbol =>
    "Processor symbol must be a single character, got ".toList ++ symbol.shown
  | symbolReserved symbol =>
    "Processor symbol ".toList ++ Quoted.encode [symbol] ++ " clashes with dice notation".toList
  | notCallable symbol =>
    "Processor for ".toList ++ Quoted.encode [symbol] ++ " is not callable".toList
  | notUnary symbol =>
    "Processor for ".toList ++ Quoted.encode [symbol] ++
      " must accept exactly one argument (the rolls)".toList
  | notRegistered symbol => symbol.shown
  | notKey kind => "unhashable type: ".toList ++ Quoted.encode kind
  | processorFailed message => message
  | sourceExhausted => "no scripted value left".toList
  | seedUnsupported =>
    "The only supported seed types are: None,\nint, float, str, bytes, and bytearray.".toList
  | unknownLevel level => "Unknown level: ".toList ++ Quoted.encode level
  | notUtf8 failure => failure.message
  | undecoded reason => reason
  | nullInPath => "embedded null byte".toList

/-- Faults of the dice text, which hosts answer instead of passing them on. -/
def isDice : Fault → Bool
  | malformedToken .. | unknownProcessor _ | malformedLine _ => true
  | _ => false

/-- The whole token, symbol or line that a fault of the dice text is about. -/
def subject? : Fault → Option Datum
  | malformedToken token _ => some (.text token)
  | unknownProcessor symbol => some symbol
  | malformedLine line => some (.text line)
  | _ => none

end Fault

end InlineDice
