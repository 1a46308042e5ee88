import InlineDice.CommandLine.Run
import InlineDice.Proofs.PlayRuns
import Mathlib.Data.List.TakeWhile

namespace InlineDice.CommandLine

namespace Grammar

variable {ρ : Type} (g : Grammar ρ)

/-- Arguments that do not begin with a minus sign are operands all. -/
theorem parse_of_operands (values : ρ) {args : List Text}
    (operands : ∀ arg ∈ args, arg.head? ≠ some '-') :
    g.parse values args = g.readAll none ⟨values, false, []⟩ (args.map (·, .operand)) := by
  have noMark : ∀ arg ∈ args, arg ≠ mark := by
    rintro arg member rfl
    exact operands _ member rfl
  have front : args.takeWhile (· ≠ mark) = args := by
    rw [List.takeWhile_eq_self_iff]
    simpa using noMark
  have back : args.dropWhile (· ≠ mark) = [] := by
    rw [List.dropWhile_eq_nil_iff]
    simpa using noMark
  have classified : args.mapM (fun arg => return (arg, ← g.classify arg)) =
      (.ok (args.map (·, .operand)) : Except Stop _) := by
    clear noMark front back
    induction args with
    | nil => rfl
    | cons arg args ih =>
      obtain ⟨first, later⟩ := List.forall_mem_cons.mp operands
      have operand : g.classify arg = .ok .operand := if_pos first
      rw [List.mapM_cons, ih later, operand]
      rfl
  unfold parse
  simp only [front, back, classified]
  rfl

theorem parse_of_atMostOne {set : Text → ρ → ρ} (takes : g.operands = .atMostOne set) (values : ρ)
    {arg : Text} (operand : arg.head? ≠ some '-') :
    g.parse values [arg] = .ok (set arg values, []) := by
  rw [parse_of_operands g values (List.forall_mem_singleton.mpr operand)]
  simp only [List.map_cons, List.map_nil, readAll, takes, finish]
  rfl

theorem operandRun_of_operands (args : List Text) :
    operandRun (args.map fun arg => (arg, (.operand : Reading ρ))) = (args, []) := by
  induction args with
  | nil => rfl
  | cons arg args ih => rw [List.map_cons, operandRun, ih]

theorem parse_of_atLeastOne {name : Text} {set : List Text → ρ → ρ}
    (takes : g.operands = .atLeastOne name set) (values : ρ) {args : List Text}
    (nonempty : args ≠ []) (operands : ∀ arg ∈ args, arg.head? ≠ some '-') :
    g.parse values args = .ok (set args values, []) := by
  obtain ⟨arg, rest, rfl⟩ := List.exists_cons_of_ne_nil nonempty
  have run := operandRun_of_operands (ρ := ρ) rest
  rw [parse_of_operands g values operands, List.map_cons, readAll.eq_def]
  simp only [takes, run, List.isEmpty_nil, if_true, Option.getD_none, List.append_nil]

variable {g}

theorem classified_of_forall {args : List Text}
    (each : ∀ arg ∈ args, ∃ reading, g.classify arg = .ok reading) :
    ∃ readings, args.mapM (fun arg => return (arg, ← g.classify arg)) = .ok readings := by
  cases read : args.mapM fun arg => return (arg, ← g.classify arg) with
  | ok readings => exact ⟨readings, rfl⟩
  | error stop =>
    obtain ⟨before, arg, after, rfl, -, failed⟩ := mapM_eq_error_iff.mp read
    obtain ⟨reading, classified⟩ := each arg (by simp)
    rw [classified] at failed
    cases failed

theorem map_fst_of_classified {args : List Text} {readings : List (Text × Reading ρ)}
    (read : args.mapM (fun arg => return (arg, ← g.classify arg)) = .ok readings) :
    readings.map Prod.fst = args := by
  have each : List.Forall₂ (fun arg reading => arg = Prod.fst reading) args readings := by
    refine (mapM_eq_ok_iff.mp read).imp fun arg reading made => ?_
    obtain ⟨kind, -, same⟩ := except_bind_eq_ok_iff.mp made
    exact congrArg Prod.fst (Except.ok.inj same)
  have same := List.forall₂_map_right_iff.mpr each
  rw [List.forall₂_eq_eq_eq] at same
  exact same.symm

/-- Nothing is lost where a command line is cut at the mark. -/
theorem front_append_tail (args : List Text) :
    args.takeWhile (· ≠ mark) ++ (match args.dropWhile (· ≠ mark) with
      | [] => none
      | _ :: rest => some rest).elim [] (mark :: ·) = args := by
  have parts := List.takeWhile_append_dropWhile (p := (· ≠ mark)) (l := args)
  cases rest : args.dropWhile (· ≠ mark) with
  | nil => rwa [rest] at parts
  | cons first later =>
    have isMark := List.head?_dropWhile_not (· ≠ mark) args
    rw [rest] at isMark parts
    have same : first = mark := by simpa using isMark
    rwa [same] at parts

theorem readAll_cons_command {set : Text → List Text → ρ → Except Stop (ρ × List Text)}
    (takes : g.operands = .command set) (tail : Option (List Text)) (values : ρ) (name : Text)
    (rest : List (Text × Reading ρ)) :
    g.readAll tail ⟨values, false, []⟩ ((name, .operand) :: rest) =
      set name (rest.map Prod.fst ++ tail.elim [] (mark :: ·)) values := by
  rw [readAll.eq_def]
  simp only [takes, List.nil_append]
  cases set name (rest.map Prod.fst ++ tail.elim [] (mark :: ·)) values <;> rfl

/-- A command takes all arguments after it as they are, once each of them has been classified. -/
theorem parse_cons_command {set : Text → List Text → ρ → Except Stop (ρ × List Text)}
    (takes : g.operands = .command set) {name : Text} (operand : name.head? ≠ some '-') (values : ρ)
    (args : List Text) :
    g.parse values (name :: args) =
      (do
        let _ ← (args.takeWhile (· ≠ mark)).mapM fun arg => return (arg, ← g.classify arg)
        set name args values) := by
  have notMark : name ≠ mark := by
    rintro rfl
    exact operand rfl
  have front : (name :: args).takeWhile (· ≠ mark) = name :: args.takeWhile (· ≠ mark) := by
    simp [notMark]
  have back : (name :: args).dropWhile (· ≠ mark) = args.dropWhile (· ≠ mark) := by
    simp [notMark]
  have classified : g.classify name = .ok .operand := if_pos operand
  unfold parse
  simp only [front, back, List.mapM_cons, classified]
  cases read : (args.takeWhile (· ≠ mark)).mapM fun arg => return (arg, ← g.classify arg) with
  | error stop => rfl
  | ok readings =>
    refine (readAll_cons_command takes _ values name readings).trans ?_
    rw [map_fst_of_classified read]
    exact congrArg (fun all => set name all values) (front_append_tail args)

end Grammar

/-- What a command makes of its arguments is what is read, if each of them can be classified before. -/
theorem Arguments.read_cons_command {keepsMark : Bool} {name : Text}
    (operand : name.head? ≠ some '-') {args : List Text}
    (each : ∀ arg ∈ args, ∃ reading, (Arguments.grammar keepsMark).classify arg = .ok reading)
    {command : Command} (readable : Arguments.readCommand keepsMark name args = .ok (command, [])) :
    Arguments.read keepsMark (name :: args) = .ok ⟨false, none, some command⟩ := by
  obtain ⟨readings, classified⟩ := Grammar.classified_of_forall
    fun arg member => each arg ((List.takeWhile_sublist (· ≠ Grammar.mark)).subset member)
  have main : (Arguments.grammar keepsMark).parse ⟨false, none, none⟩ (name :: args) =
      .ok (⟨false, none, some command⟩, []) := by
    rw [Grammar.parse_cons_command rfl operand, classified, readable]
    rfl
  rw [Arguments.read, main]
  rfl

theorem read_of_command {keepsMark : Bool} {name : Text} {args : List Text} {command : Command}
    (operands : ∀ arg ∈ name :: args, arg.head? ≠ some '-')
    (readable : Arguments.readCommand keepsMark name args = .ok (command, [])) :
    Arguments.read keepsMark (name :: args) = .ok ⟨false, none, some command⟩ := by
  obtain ⟨first, later⟩ := List.forall_mem_cons.mp operands
  exact Arguments.read_cons_command first (fun arg member => ⟨.operand, if_pos (later arg member)⟩)
    readable

theorem read_expand (keepsMark : Bool) {path : Text} (operand : path.head? ≠ some '-') :
    Arguments.read keepsMark ["expand".toList, path] =
      .ok ⟨false, none, some (.expand (some path) false)⟩ := by
  have takes : Arguments.expandGrammar.operands =
    .atMostOne fun file values => (some file, values.2) := rfl
  have inner : Arguments.expandGrammar.parse (none, false) [path] = .ok ((some path, false), []) :=
    Grammar.parse_of_atMostOne _ takes _ operand
  refine read_of_command
    (List.forall_mem_cons.mpr ⟨by decide, List.forall_mem_singleton.mpr operand⟩) ?_
  rw [Arguments.readCommand, if_neg (by decide), if_pos rfl, inner]
  rfl

/-- Texts that do not begin with a minus sign are what there is to roll, whatever else they hold. -/
theorem read_roll (keepsMark : Bool) {texts : List Text} (nonempty : texts ≠ [])
    (operands : ∀ text ∈ texts, text.head? ≠ some '-') :
    Arguments.read keepsMark ("roll".toList :: texts) = .ok ⟨false, none, some (.roll texts)⟩ := by
  have takes : Arguments.rollGrammar.operands = .atLeastOne "text".toList fun texts _ => texts := rfl
  have inner : Arguments.rollGrammar.parse [] texts = .ok (texts, []) :=
    Grammar.parse_of_atLeastOne _ takes _ nonempty operands
  refine read_of_command (List.forall_mem_cons.mpr ⟨by decide, operands⟩) ?_
  rw [Arguments.readCommand, if_pos rfl, inner]
  rfl

/-- Once its arguments are read and its log level is known, a run is that of its command. -/
theorem run_of_shows {σ : Type} [RandomSource σ] (host : Host σ) {args : List Text} {verbose : Bool}
    {seed : Option (Given Int)} {command : Command} {notes : Bool}
    (read : Arguments.read host.keepsMark args = .ok ⟨verbose, seed, some command⟩)
    (shows : showsNotes verbose host.settings.logLevel = .ok notes) :
    run host args = command.run host seed notes := by
  unfold run
  rw [read]
  dsimp only
  rw [shows]

end InlineDice.CommandLine
