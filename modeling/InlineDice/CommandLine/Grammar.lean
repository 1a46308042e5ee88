import InlineDice.Text.Integer
import InlineDice.Text.Quoted

namespace InlineDice.CommandLine

/-- Why the reading of a command line stops: a page is asked for, or the arguments are refused. -/
inductive Stop where
  | page (text : Text)
  | refused (program usage complaint : Text)
  deriving DecidableEq

/-- What an option is given as its value: a text, or nothing where the mark `--` is attached to it and is
dropped. -/
inductive Given (α : Type) where
  | value (a : α)
  | nothing
  deriving DecidableEq, Repr

/-- The value, if there is one. -/
def Given.value? {α : Type} : Given α → Option α
  | value a => some a
  | nothing => none

/-- What an option does to the values read so far: show the page, set a flag, or take a value, which
it may refuse with a complaint. -/
inductive Effect (ρ : Type) where
  | help
  | flag (set : ρ → ρ)
  | value (set : Given Text → ρ → Except Text ρ)

/-- An option under all its names. -/
structure Switch (ρ : Type) where
  names : List Text
  effect : Effect ρ

/-- What a command line takes besides options. A command takes all arguments after it, and hands
back those it does not recognize. -/
inductive Operands (ρ : Type) where
  | none
  | atMostOne (set : Text → ρ → ρ)
  | atLeastOne (name : Text) (set : List Text → ρ → ρ)
  | command (set : Text → List Text → ρ → Except Stop (ρ × List Text))

/-- How a command line is read. Readings differ in whether the mark `--` attached to an option is a value
like any other text. -/
structure Grammar (ρ : Type) where
  program : Text
  usage : Text
  page : Text
  switches : List (Switch ρ)
  operands : Operands ρ
  keepsMark : Bool := true

/-- How one argument reads, taken by itself. An option may have a text attached, after an equals sign
or directly. -/
inductive Reading (ρ : Type) where
  | operand
  | unknown
  | option (switch : Switch ρ) (name : Text) (attached : Option Text)

/-- Several options in one argument: those that are settled with their values, and the one that may
still take the next argument. -/
structure Unpacked (ρ : Type) where
  settled : List (Switch ρ × Given Text)
  pending : Option (Switch ρ)

namespace Grammar

variable {ρ : Type} (g : Grammar ρ)

def refuse {α : Type} (complaint : Text) : Except Stop α :=
  .error (.refused g.program g.usage complaint)

def refuseOption {α : Type} (s : Switch ρ) (complaint : Text) : Except Stop α :=
  g.refuse ("argument ".toList ++ Text.join ['/'] s.names ++ ": ".toList ++ complaint)

def named (name : Text) : Option (Switch ρ) := g.switches.find? (·.names.contains name)

/-- All options with all their names. -/
def allNames : List (Switch ρ × Text) := g.switches.flatMap fun s => s.names.map (s, ·)

/-- A text before its first equals sign, and the text after it. -/
def splitEquals (arg : Text) : Text × Option Text :=
  match arg.dropWhile (· ≠ '=') with
  | [] => (arg, none)
  | _ :: value => (arg.takeWhile (· ≠ '='), some value)

/-- A minus sign before digits, or before digits with a point and at least one digit after it; a line
feed may follow. -/
def looksNegative (arg : Text) : Bool :=
  let isDigit (c : Char) := (digitValue? c).isSome
  let isNumber (s : Text) :=
    !s.isEmpty && match s.dropWhile isDigit with
      | [] => true
      | '.' :: places => !places.isEmpty && places.all isDigit
      | _ => false
  match arg with
  | '-' :: s => isNumber s || (s.getLast? == some '\n' && isNumber s.dropLast)
  | _ => false

/-- The options that an argument abbreviates, or whose value it holds directly after a short name. -/
def candidates (arg : Text) : List (Text × Reading ρ) :=
  match arg with
  | '-' :: '-' :: _ =>
    let (start, value) := splitEquals arg
    g.allNames.filterMap fun (s, name) =>
      if start.isPrefixOf name then some (name, .option s name value) else none
  | _ =>
    g.allNames.filterMap fun (s, name) =>
      if name = arg.take 2 then some (name, .option s name (some (arg.drop 2)))
      else if arg.isPrefixOf name then some (name, .option s name none)
      else none

/-- An argument is an option if it begins with a minus sign and is neither that alone, nor a negative
number, nor a text with a space. -/
def classify (arg : Text) : Except Stop (Reading ρ) :=
  if arg.head? ≠ some '-' then .ok .operand
  else
    let (start, value) := splitEquals arg
    match g.named arg, arg.length == 1, value, g.named start with
    | some s, _, _, _ => .ok (.option s arg none)
    | none, true, _, _ => .ok .operand
    | none, false, some value, some s => .ok (.option s start (some value))
    | none, false, _, _ =>
      match g.candidates arg with
      | [(_, reading)] => .ok reading
      | [] => .ok (if looksNegative arg || arg.contains ' ' then .operand else .unknown)
      | several =>
        g.refuse ("ambiguous option: ".toList ++ arg ++ " could match ".toList ++
          Text.join ", ".toList (several.map Prod.fst))

/-- One minus sign only. -/
def isShort : Text → Bool
  | _ :: '-' :: _ => false
  | _ => true

/-- The mark after which every argument is an operand. -/
def mark : Text := "--".toList

/-- The value that an attached text gives to an option. -/
def given (text : Text) : Given Text :=
  if text = mark ∧ g.keepsMark = false then .nothing else .value text

/-- Takes an option apart that has a text attached. After the short name of an option without value
more short names follow, all of which have to be known. -/
def unpack (s : Switch ρ) (name : Text) (attached : Text) : Except Stop (Unpacked ρ) :=
  let ignored (text : Text) : Except Stop (Unpacked ρ) :=
    g.refuseOption s ("ignored explicit argument ".toList ++ Quoted.encode text)
  match s.effect, attached with
  | .value _, attached => .ok ⟨[(s, g.given attached)], none⟩
  | _, [] => ignored []
  | _, c :: rest =>
    match if isShort name then g.named ['-', c] else none with
    | none => ignored (c :: rest)
    | some next =>
      let more : Except Stop (Unpacked ρ) :=
        if rest.isEmpty then .ok ⟨[], some next⟩ else unpack next ['-', c] rest
      more.map fun more => { more with settled := (s, .nothing) :: more.settled }

/-- Applies an option. -/
def perform (s : Switch ρ) (value : Given Text) (values : ρ) : Except Stop ρ :=
  match s.effect with
  | .help => .error (.page g.page)
  | .flag set => .ok (set values)
  | .value set =>
    match set value values with
    | .ok values => .ok values
    | .error complaint => g.refuseOption s complaint

def performAll (values : ρ) (settled : List (Switch ρ × Given Text)) : Except Stop ρ :=
  settled.foldlM (fun values (s, value) => g.perform s value values) values

/-- What has been read: the values, whether the operands are in, and the arguments left over. -/
structure State (ρ : Type) where
  values : ρ
  filled : Bool
  extras : List Text

/-- The end of the arguments, or of those before the mark whose `tail` are operands all. -/
def finish (state : State ρ) (tail : Option (List Text)) : Except Stop (ρ × List Text) :=
  let marked := tail.elim [] (mark :: ·)
  match state.filled, g.operands, tail with
  | true, _, _ | false, .none, _ => .ok (state.values, state.extras ++ marked)
  | false, .atMostOne set, some (arg :: rest) => .ok (set arg state.values, state.extras ++ rest)
  | false, .atMostOne _, _ => .ok (state.values, state.extras)
  | false, .atLeastOne _ set, some (arg :: rest) =>
    .ok (set (arg :: rest) state.values, state.extras)
  | false, .atLeastOne name _, _ =>
    g.refuse ("the following arguments are required: ".toList ++ name)
  | false, .command set, some (arg :: rest) => do
    let (values, extras) ← set mark (arg :: rest) state.values
    return (values, state.extras ++ extras)
  | false, .command _, _ => .ok (state.values, state.extras ++ marked)

/-- The run of operands at the front. -/
def operandRun (args : List (Text × Reading ρ)) : List Text × List (Text × Reading ρ) :=
  match args with
  | (arg, .operand) :: rest => let (run, rest) := operandRun rest; (arg :: run, rest)
  | rest => ([], rest)

theorem operandRun_length (args : List (Text × Reading ρ)) :
    (operandRun args).2.length ≤ args.length := by
  fun_induction operandRun args with
  | case1 arg rest run after same ih => simp only [same] at ih; simp; omega
  | case2 => simp

/-- Reads the arguments from left to right. -/
def readAll (tail : Option (List Text)) (state : State ρ) (args : List (Text × Reading ρ)) :
    Except Stop (ρ × List Text) :=
  match args with
  | [] => g.finish state tail
  | (arg, .unknown) :: rest => readAll tail { state with extras := state.extras ++ [arg] } rest
  | (_, .option s name attached) :: rest => do
    let unpacked ←
      match attached with
      | some text => g.unpack s name text
      | none => pure ⟨[], some s⟩
    match unpacked.pending with
    | none =>
      let values ← g.performAll state.values unpacked.settled
      readAll tail { state with values } rest
    | some last =>
      match last.effect, rest with
      | .value _, (text, .operand) :: rest =>
        let values ← g.performAll state.values (unpacked.settled ++ [(last, .value text)])
        readAll tail { state with values } rest
      | .value _, _ => g.refuseOption last "expected one argument".toList
      | _, rest =>
        let values ← g.performAll state.values (unpacked.settled ++ [(last, .nothing)])
        readAll tail { state with values } rest
  | (arg, .operand) :: rest =>
    match state.filled, g.operands with
    | true, _ | false, .none => readAll tail { state with extras := state.extras ++ [arg] } rest
    | false, .atMostOne set =>
      let state := { state with values := set arg state.values, filled := true }
      match rest, tail with
      | [], some left => .ok (state.values, state.extras ++ left)
      | rest, tail => readAll tail state rest
    | false, .atLeastOne _ set =>
      let run := arg :: (operandRun rest).1
      if (operandRun rest).2.isEmpty then
        .ok (set (run ++ tail.getD []) state.values, state.extras)
      else
        readAll tail { state with values := set run state.values, filled := true }
          (operandRun rest).2
    | false, .command set => do
      let all := rest.map Prod.fst ++ tail.elim [] (mark :: ·)
      let (values, extras) ← set arg all state.values
      return (values, state.extras ++ extras)
termination_by args.length
decreasing_by
  all_goals simp only [List.length_cons]
  all_goals try omega
  exact Nat.lt_succ_of_le (operandRun_length _)

/-- Reads a command line, beginning with the values it has without any argument. Every argument before
a mark is classified before any is acted on. What comes back are the values and the arguments that
were not recognized. -/
def parse (values : ρ) (args : List Text) : Except Stop (ρ × List Text) := do
  let front := args.takeWhile (· ≠ mark)
  let tail :=
    match args.dropWhile (· ≠ mark) with
    | [] => none
    | _ :: rest => some rest
  let readings ← front.mapM fun arg => return (arg, ← g.classify arg)
  g.readAll tail ⟨values, false, []⟩ readings

end Grammar

end InlineDice.CommandLine
