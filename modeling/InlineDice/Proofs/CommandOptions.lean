import InlineDice.Proofs.CommandOutcomes
import InlineDice.Proofs.WrittenIntegers

namespace InlineDice.CommandLine

namespace Grammar

variable {ρ : Type} {g : Grammar ρ}

/-- An argument that does no more than to change the values read so far. -/
structure Sets (g : Grammar ρ) (arg : Text) (change : ρ → ρ) : Prop where
  notMark : arg ≠ mark
  step : ∃ reading, g.classify arg = .ok reading ∧ ∀ tail state rest,
    g.readAll tail state ((arg, reading) :: rest) =
      g.readAll tail { state with values := change state.values } rest

theorem parse_cons_of_sets {arg : Text} {change : ρ → ρ} (sets : g.Sets arg change) (values : ρ)
    (args : List Text) : g.parse values (arg :: args) = g.parse (change values) args := by
  obtain ⟨reading, classified, step⟩ := sets.step
  have front : (arg :: args).takeWhile (· ≠ mark) = arg :: args.takeWhile (· ≠ mark) := by
    simp [sets.notMark]
  have back : (arg :: args).dropWhile (· ≠ mark) = args.dropWhile (· ≠ mark) := by
    simp [sets.notMark]
  unfold parse
  simp only [front, back, List.mapM_cons, classified]
  cases (args.takeWhile (· ≠ mark)).mapM fun arg => return (arg, ← g.classify arg) with
  | error stop => rfl
  | ok readings => exact step _ _ _

/-- Arguments that only change values can be taken off the front of a command line. -/
theorem parse_append_of_sets {ι : Type} {arg : ι → Text} {change : ι → ρ → ρ} {options : List ι}
    (sets : ∀ o ∈ options, g.Sets (arg o) (change o)) (values : ρ) (args : List Text) :
    g.parse values (options.map arg ++ args) =
      g.parse (options.foldl (fun values o => change o values) values) args := by
  induction options generalizing values with
  | nil => rfl
  | cons o options ih =>
    obtain ⟨first, later⟩ := List.forall_mem_cons.mp sets
    rw [List.map_cons, List.cons_append, parse_cons_of_sets first, ih later, List.foldl_cons]

theorem parse_nil_of_none (takes : g.operands = .none) (values : ρ) :
    g.parse values [] = .ok (values, []) := by
  have ended : g.readAll none ⟨values, false, []⟩ [] = .ok (values, []) := by
    rw [readAll.eq_def]
    simp only [finish, takes, Option.elim_none, List.append_nil]
  exact ended

theorem splitEquals_append {name : Text} (plain : '=' ∉ name) (value : Text) :
    splitEquals (name ++ '=' :: value) = (name, some value) := by
  have all : ∀ c ∈ name, (decide (c ≠ '=')) = true := by
    intro c member
    exact decide_eq_true fun same => plain (same ▸ member)
  unfold splitEquals
  rw [List.dropWhile_append_of_pos all, List.takeWhile_append_of_pos all]
  simp

/-- No option has an equals sign in its name. -/
def IsPlain (g : Grammar ρ) : Prop := ∀ s ∈ g.switches, ∀ name ∈ s.names, '=' ∉ name

theorem named_eq_none_of_mem (plain : g.IsPlain) {arg : Text} (equals : '=' ∈ arg) :
    g.named arg = none := by
  refine List.find?_eq_none.mpr fun s member => ?_
  simp only [List.contains_iff_mem]
  exact fun named => plain s member arg named equals

theorem classify_attached (plain : g.IsPlain) {name : Text} (dash : name.head? = some '-')
    (bare : '=' ∉ name) {s : Switch ρ} (named : g.named name = some s) (value : Text) :
    g.classify (name ++ '=' :: value) = .ok (.option s name (some value)) := by
  have unnamed := named_eq_none_of_mem plain
    (List.mem_append_right name (List.mem_cons_self : '=' ∈ '=' :: value))
  have dashed : (name ++ '=' :: value).head? = some '-' := by
    rw [List.head?_append, dash]
    rfl
  have long : ((name ++ '=' :: value).length == 1) = false := by
    cases name with
    | nil => cases dash
    | cons c name => simp
  unfold classify
  rw [if_neg (not_not_intro dashed)]
  simp only [splitEquals_append bare, unnamed, long, named]

/-- An option with its value attached sets it. -/
theorem sets_attached (plain : g.IsPlain) {name : Text} (dash : name.head? = some '-')
    (bare : '=' ∉ name) {s : Switch ρ} (named : g.named name = some s)
    {set : Given Text → ρ → Except Text ρ} (takes : s.effect = .value set) {value : Text}
    {change : ρ → ρ} (reads : ∀ values, set (g.given value) values = .ok (change values)) :
    g.Sets (name ++ '=' :: value) change := by
  refine ⟨?_, _, classify_attached plain dash bare named value, fun tail state rest => ?_⟩
  · intro same
    have member : '=' ∈ mark := same ▸ List.mem_append_right name List.mem_cons_self
    exact absurd member (by decide)
  · have unpacked : g.unpack s name value = .ok ⟨[(s, g.given value)], none⟩ := by
      unfold unpack
      rw [takes]
    have performed : g.performAll state.values [(s, g.given value)] = .ok (change state.values) := by
      simp only [performAll, List.foldlM_cons, List.foldlM_nil, perform, takes, reads]
      rfl
    rw [readAll.eq_def]
    simp only [unpacked, bind, Except.bind, performed]

theorem classify_named {name : Text} (dash : name.head? = some '-') {s : Switch ρ}
    (named : g.named name = some s) : g.classify name = .ok (.option s name none) := by
  unfold classify
  rw [if_neg (not_not_intro dash)]
  simp only [named]

theorem sets_flag {name : Text} (dash : name.head? = some '-') (notMark : name ≠ mark)
    {s : Switch ρ} (named : g.named name = some s) {set : ρ → ρ} (flag : s.effect = .flag set) :
    g.Sets name set := by
  refine ⟨notMark, _, classify_named dash named, fun tail state rest => ?_⟩
  rw [readAll.eq_def]
  simp only [bind, Except.bind, pure, Except.pure, flag, performAll, perform, List.nil_append,
    List.foldlM_cons, List.foldlM_nil]

/-- An option that a grammar knows nothing of is not in its way. -/
theorem classify_foreign (plain : g.IsPlain) {stem : Text} (bare : '=' ∉ stem)
    (foreign : ∀ s ∈ g.switches, ∀ name ∈ s.names, ¬('-' :: '-' :: stem) <+: name)
    (value : Text) : ∃ reading, g.classify ('-' :: '-' :: stem ++ '=' :: value) = .ok reading := by
  have bareName : '=' ∉ '-' :: '-' :: stem := by simpa using bare
  have unnamed := named_eq_none_of_mem plain
    (List.mem_append_right ('-' :: '-' :: stem) (List.mem_cons_self : '=' ∈ '=' :: value))
  have unnamedStart : g.named ('-' :: '-' :: stem) = none := by
    refine List.find?_eq_none.mpr fun s member => ?_
    simp only [List.contains_iff_mem]
    exact fun named => foreign s member _ named List.prefix_rfl
  have alone : g.candidates ('-' :: '-' :: stem ++ '=' :: value) = [] := by
    have split : splitEquals ('-' :: '-' :: (stem ++ '=' :: value)) =
        ('-' :: '-' :: stem, some value) := splitEquals_append bareName value
    simp only [candidates, List.cons_append, split, allNames, List.filterMap_flatMap]
    simpa using foreign
  have long : (('-' :: '-' :: stem ++ '=' :: value).length == 1) = false := by simp
  unfold classify
  rw [if_neg (by simp)]
  simp only [splitEquals_append bareName, unnamed, long, unnamedStart, alone]
  exact ⟨_, rfl⟩

end Grammar

/-- An integer as it is written. -/
structure WrittenInteger where
  text : Text
  value : Int
  read : Integer.read? text = some value

def WrittenInteger.ofInt (n : Int) (writable : Integer.isWritable n = true) : WrittenInteger :=
  ⟨Text.ofInt n, n, Integer.read?_ofInt writable⟩

/-- No integer is written as the mark. -/
theorem WrittenInteger.given_text {ρ : Type} (g : Grammar ρ) (n : WrittenInteger) :
    g.given n.text = .value n.text := by
  have unread : Integer.read? Grammar.mark = none := by decide
  refine if_neg fun dropped => ?_
  have read := n.read
  rw [dropped.1] at read
  exact absurd (read.symm.trans unread) (by simp)

namespace Arguments

/-- An option before a command. -/
inductive Leading where
  | verbose
  | seed (n : WrittenInteger)

namespace Leading

def arg : Leading → Text
  | verbose => "--verbose".toList
  | seed n => "--seed".toList ++ '=' :: n.text

def change : Leading → Arguments → Arguments
  | verbose, values => { values with verbose := true }
  | seed n, values => { values with seed := some (.value n.value) }

def isVerbose : Leading → Bool
  | verbose => true
  | seed _ => false

def seed? : Leading → Option Int
  | verbose => none
  | seed n => some n.value

/-- The seed that counts: the last one. -/
def lastSeed (options : List Leading) : Option Int := (options.filterMap seed?).getLast?

end Leading

theorem grammar_isPlain (keepsMark : Bool) : (grammar keepsMark).IsPlain := by
  have plain : ∀ s ∈ (grammar true).switches, ∀ name ∈ s.names, '=' ∉ name := by decide
  exact plain

theorem serveGrammar_isPlain (keepsMark : Bool) : (serveGrammar keepsMark).IsPlain := by
  have plain : ∀ s ∈ (serveGrammar true).switches, ∀ name ∈ s.names, '=' ∉ name := by decide
  exact plain

theorem Leading.sets (keepsMark : Bool) (o : Leading) :
    (grammar keepsMark).Sets o.arg o.change := by
  cases o with
  | verbose => exact Grammar.sets_flag (by decide) (by decide) rfl rfl
  | seed n =>
    refine Grammar.sets_attached (grammar_isPlain _) (by decide) (by decide) rfl rfl fun values => ?_
    simp only [n.given_text, n.read]
    rfl

theorem Leading.any_filter_isVerbose (options : List Leading) :
    (options.filter isVerbose).any isVerbose = options.any isVerbose := by
  rw [List.any_filter]
  simp

theorem Leading.lastSeed_filter_isVerbose (options : List Leading) :
    lastSeed (options.filter isVerbose) = none := by
  have none : (options.filter isVerbose).filterMap seed? = [] := by
    refine List.filterMap_eq_nil_iff.mpr fun o member => ?_
    cases o with
    | verbose => rfl
    | seed n => exact absurd (List.of_mem_filter member) Bool.false_ne_true
  rw [lastSeed, none]
  rfl

theorem Leading.foldl_change (options : List Leading) (values : Arguments) :
    options.foldl (fun values o => o.change values) values =
      ⟨values.verbose || options.any isVerbose,
        ((lastSeed options).map .value).or values.seed, values.command⟩ := by
  induction options generalizing values with
  | nil => simp [lastSeed]
  | cons o options ih =>
    rw [List.foldl_cons, ih]
    cases o with
    | verbose => simp [change, isVerbose, lastSeed, seed?]
    | seed n =>
      have counted : lastSeed (seed n :: options) = some ((lastSeed options).getD n.value) :=
        List.getLast?_cons
      rw [counted]
      cases lastSeed options <;> simp [change, isVerbose]

theorem parse_cons_command_values (keepsMark : Bool) {name : Text}
    (operand : name.head? ≠ some '-') (values : Arguments) (args : List Text) :
    (grammar keepsMark).parse values (name :: args) =
      ((grammar keepsMark).parse ⟨false, none, none⟩ (name :: args)).map fun (found, extras) =>
        ({ values with command := found.command }, extras) := by
  rw [Grammar.parse_cons_command rfl operand, Grammar.parse_cons_command rfl operand]
  cases (args.takeWhile (· ≠ Grammar.mark)).mapM
      fun arg => return (arg, ← (grammar keepsMark).classify arg) with
  | error stop => rfl
  | ok readings => cases readCommand keepsMark name args <;> simp [bind, Except.bind, Except.map]

/-- Options before a command make no difference to how the command is read. Of several seeds the last
one counts. -/
theorem read_leading (keepsMark : Bool) (options : List Leading) {name : Text}
    (operand : name.head? ≠ some '-') (args : List Text) :
    read keepsMark (options.map Leading.arg ++ name :: args) =
      (read keepsMark (name :: args)).map fun found =>
        ⟨options.any Leading.isVerbose, (Leading.lastSeed options).map .value, found.command⟩ := by
  unfold read
  rw [Grammar.parse_append_of_sets fun o _ => o.sets keepsMark, Leading.foldl_change,
    parse_cons_command_values keepsMark operand]
  cases (grammar keepsMark).parse ⟨false, none, none⟩ (name :: args) with
  | error stop => rfl
  | ok found =>
    obtain ⟨found, extras⟩ := found
    by_cases none : extras = [] <;>
      simp [none, bind, Except.bind, Except.map, pure, Except.pure, Grammar.refuse]

/-- An option of the service. -/
inductive Serving where
  | host (name : Text)
  | port (n : WrittenInteger)

namespace Serving

def arg : Serving → Text
  | host name => "--host".toList ++ '=' :: name
  | port n => "--port".toList ++ '=' :: n.text

def change (keepsMark : Bool) : Serving → Option (Given Text) × Option (Given Int) →
    Option (Given Text) × Option (Given Int)
  | host name, values => (some ((serveGrammar keepsMark).given name), values.2)
  | port n, values => (values.1, some (.value n.value))

def host? : Serving → Option Text
  | host name => some name
  | port _ => none

def port? : Serving → Option Int
  | host _ => none
  | port n => some n.value

def lastHost (options : List Serving) : Option Text := (options.filterMap host?).getLast?

def lastPort (options : List Serving) : Option Int := (options.filterMap port?).getLast?

theorem sets (keepsMark : Bool) (o : Serving) :
    (serveGrammar keepsMark).Sets o.arg (o.change keepsMark) := by
  cases o with
  | host name =>
    refine Grammar.sets_attached (serveGrammar_isPlain _) (by decide) (by decide) rfl rfl fun values => ?_
    rfl
  | port n =>
    refine Grammar.sets_attached (serveGrammar_isPlain _) (by decide) (by decide) rfl rfl fun values => ?_
    simp only [n.given_text, n.read]
    rfl

theorem classify_arg (keepsMark : Bool) (o : Serving) :
    ∃ reading, (grammar keepsMark).classify o.arg = .ok reading := by
  have hostForeign : ∀ s ∈ (grammar true).switches, ∀ name ∈ s.names, ¬"--host".toList <+: name := by
    decide
  have portForeign : ∀ s ∈ (grammar true).switches, ∀ name ∈ s.names, ¬"--port".toList <+: name := by
    decide
  cases o with
  | host name =>
    exact Grammar.classify_foreign (grammar_isPlain keepsMark) (by decide) hostForeign name
  | port n =>
    exact Grammar.classify_foreign (grammar_isPlain keepsMark) (by decide) portForeign n.text

theorem foldl_change (keepsMark : Bool) (options : List Serving)
    (values : Option (Given Text) × Option (Given Int)) :
    options.foldl (fun values o => o.change keepsMark values) values =
      (((lastHost options).map (serveGrammar keepsMark).given).or values.1,
        ((lastPort options).map .value).or values.2) := by
  induction options generalizing values with
  | nil => simp [lastHost, lastPort]
  | cons o options ih =>
    rw [List.foldl_cons, ih]
    cases o with
    | host name =>
      have counted : lastHost (host name :: options) = some ((lastHost options).getD name) :=
        List.getLast?_cons
      have kept : lastPort (host name :: options) = lastPort options := rfl
      rw [counted, kept]
      cases lastHost options <;> simp [change]
    | port n =>
      have counted : lastPort (port n :: options) = some ((lastPort options).getD n.value) :=
        List.getLast?_cons
      have kept : lastHost (port n :: options) = lastHost options := rfl
      rw [counted, kept]
      cases lastPort options <;> simp [change]

end Serving

/-- Of several hosts the last one counts, and of several ports. -/
theorem read_serve (keepsMark : Bool) (options : List Serving) :
    read keepsMark ("serve".toList :: options.map Serving.arg) = .ok ⟨false, none, some
      (.serve ((Serving.lastHost options).map (serveGrammar keepsMark).given)
        ((Serving.lastPort options).map .value))⟩ := by
  have parsed : (serveGrammar keepsMark).parse (none, none) (options.map Serving.arg) =
      .ok (((Serving.lastHost options).map (serveGrammar keepsMark).given,
        (Serving.lastPort options).map .value), []) := by
    have whole := Grammar.parse_append_of_sets
      (fun (o : Serving) (_ : o ∈ options) => o.sets keepsMark) (none, none) []
    rw [List.append_nil] at whole
    rw [whole, Serving.foldl_change, Option.or_none, Option.or_none]
    exact Grammar.parse_nil_of_none rfl _
  have readable : readCommand keepsMark "serve".toList (options.map Serving.arg) = .ok
      (.serve ((Serving.lastHost options).map (serveGrammar keepsMark).given)
        ((Serving.lastPort options).map .value), []) := by
    rw [readCommand, if_neg (by decide), if_neg (by decide), if_pos rfl, parsed]
    rfl
  refine read_cons_command (by decide) (fun arg member => ?_) readable
  obtain ⟨o, -, rfl⟩ := List.mem_map.mp member
  exact o.classify_arg keepsMark

end Arguments

section

variable {σ : Type}

/-- A host that differs in the seed of its settings only. -/
def Host.reseeded (host : Host σ) (seed : Option Int) : Host σ :=
  { host with settings := { host.settings with rngSeed := seed } }

/-- Work at a pipeline that makes no use of the settings behind it goes the same way whether the seed
is given or comes from the settings. -/
theorem Host.atPipeline_reseeded (host : Host σ) (seed : Option Int)
    {work : Station σ × Workbench σ → Outcome}
    (blind : ∀ station bench other, bench.supply = other.supply →
      work (station, bench) = work (station, other)) :
    host.atPipeline (seed.map .value) work =
      (host.reseeded (seed.or host.settings.rngSeed)).atPipeline none work := by
  cases seed with
  | none => rfl
  | some n =>
    have same := blind ⟨host.settings.pipeline, host.supply.own? 0 (some n)⟩
      ⟨host.settings, host.supply, [some n], none, []⟩
      ⟨(host.reseeded (some n)).settings, host.supply, [some n], none, []⟩ rfl
    exact congrArg (fun outcome => { outcome with asked := [some (.value n)] }) same

theorem perform_blind {α : Type} (notes : Bool) (play : Pipeline → Play σ α) (page : α → Text)
    (lastNote : α → Text) (station : Station σ) (bench other : Workbench σ)
    (same : bench.supply = other.supply) :
    perform notes play page lastNote (station, bench) =
      perform notes play page lastNote (station, other) := by
  have played : (bench.playAt station (play station.pipeline)).1 =
      (other.playAt station (play station.pipeline)).1 := by
    unfold Workbench.playAt
    rw [same]
    cases station.own <;> rfl
  unfold perform
  dsimp only
  rw [played]

open Arguments

/-- The service that options start on a host. An address counts unless it is empty, or the mark where the
mark is dropped, and a port unless it is zero; the settings count where none is given, and for those that
do not count. -/
def Host.serviceBy (host : Host σ) (serving : List Serving) : Service where
  application := "dicemode.main:app".toList
  host := ((Serving.lastHost serving).filter fun name =>
    name ≠ [] ∧ (name = Grammar.mark → host.keepsMark = true)).getD host.settings.serverHost
  port := ((Serving.lastPort serving).filter (· ≠ 0)).getD host.settings.serverPort
  logLevel := Case.lower host.settings.logLevel

theorem service_eq_serviceBy (host : Host σ) (serving : List Serving) :
    service host.settings ((Serving.lastHost serving).map (serveGrammar host.keepsMark).given)
      ((Serving.lastPort serving).map .value) = host.serviceBy serving := by
  have address : (((Serving.lastHost serving).map (serveGrammar host.keepsMark).given).bind
      Given.value?).filter (· ≠ []) = (Serving.lastHost serving).filter fun name =>
        name ≠ [] ∧ (name = Grammar.mark → host.keepsMark = true) := by
    cases Serving.lastHost serving with
    | none => rfl
    | some name =>
      have kept : ∀ keepsMark, (serveGrammar keepsMark).keepsMark = keepsMark := fun _ => rfl
      by_cases marked : name = Grammar.mark <;> cases host.keepsMark <;>
        simp [Grammar.given, marked, Given.value?, Option.filter, kept]
  have port : (((Serving.lastPort serving).map Given.value).bind Given.value?) =
      Serving.lastPort serving := by
    cases Serving.lastPort serving <;> rfl
  unfold service Host.serviceBy
  rw [address, port]

variable [RandomSource σ]

/-- A command is given its seed or finds it in the settings: that makes no difference. -/
theorem Command.run_reseeded (host : Host σ) (seed : Option Int) (notes : Bool) {command : Command}
    (works : ∀ address port, command ≠ .serve address port) :
    command.run host (seed.map .value) notes =
      command.run (host.reseeded (seed.or host.settings.rngSeed)) none notes := by
  cases command with
  | roll texts => exact host.atPipeline_reseeded seed (perform_blind notes _ id _)
  | expand file strict =>
    rw [Command.run, Command.run]
    refine host.atPipeline_reseeded seed fun station bench other same => ?_
    cases document host file with
    | error failure => rfl
    | ok text => exact perform_blind notes _ _ _ station bench other same
  | serve address port => exact absurd rfl (works address port)

theorem Command.asked_run (host : Host σ) (given : Option (Given Int)) (notes : Bool)
    {command : Command} (works : ∀ address port, command ≠ .serve address port) :
    (command.run host given notes).asked = [given.or (host.settings.rngSeed.map .value)] := by
  cases command with
  | roll texts => rfl
  | expand file strict => rfl
  | serve address port => exact absurd rfl (works address port)

variable {host : Host σ} {options : List Leading}

theorem run_serving
    (logs : options.any Leading.isVerbose = true ∨ Case.upper host.settings.logLevel ∈ levels)
    (serving : List Serving) :
    run host (options.map Leading.arg ++ "serve".toList :: serving.map Serving.arg) =
      { Outcome.ofEnding (.returned 0) with started := some (host.serviceBy serving) } := by
  obtain ⟨notes, shows⟩ := exists_showsNotes logs
  have readable := read_leading host.keepsMark options (by decide : "serve".toList.head? ≠ some '-')
    (serving.map Serving.arg)
  rw [read_serve _ serving] at readable
  rw [run_of_shows host readable shows, Command.run, service_eq_serviceBy]

/-- What is given on the command line counts instead of the settings, but for an empty address and the
port zero, and for the mark where it is dropped. A seed always counts, zero too: the run is the one on
settings with that seed. -/
theorem options_override_settings (host : Host σ) (options : List Leading)
    (logs : options.any Leading.isVerbose = true ∨ Case.upper host.settings.logLevel ∈ levels) :
    (∀ n, Integer.isWritable n = true → ∃ w : WrittenInteger, w.text = Text.ofInt n ∧ w.value = n) ∧
    (∀ (name : Text) (args : List Text) (command : Command), name.head? ≠ some '-' →
      Arguments.read host.keepsMark (name :: args) = .ok ⟨false, none, some command⟩ →
      (∀ address port, command ≠ .serve address port) →
        let seed := (Leading.lastSeed options).or host.settings.rngSeed
        (run host (options.map Leading.arg ++ name :: args)).asked = [seed.map .value] ∧
          run host (options.map Leading.arg ++ name :: args) =
            run (host.reseeded seed)
              ((options.filter Leading.isVerbose).map Leading.arg ++ name :: args)) ∧
    ∀ serving : List Serving,
      run host (options.map Leading.arg ++ "serve".toList :: serving.map Serving.arg) =
        { Outcome.ofEnding (.returned 0) with started := some (host.serviceBy serving) } := by
  obtain ⟨notes, shows⟩ := exists_showsNotes logs
  refine ⟨fun n writable => ⟨.ofInt n writable, rfl, rfl⟩, ?_, run_serving logs⟩
  intro name args command operand read works seed
  have whole := read_leading host.keepsMark options operand args
  have others := read_leading host.keepsMark (options.filter Leading.isVerbose) operand args
  rw [read] at whole others
  rw [Leading.any_filter_isVerbose, Leading.lastSeed_filter_isVerbose] at others
  rw [run_of_shows host whole shows, run_of_shows (host.reseeded seed) others shows]
  refine ⟨?_, Command.run_reseeded host _ notes works⟩
  rw [Command.asked_run host _ notes works]
  simp only [seed]
  cases Leading.lastSeed options <;> rfl

end

open Arguments

theorem options_override_settings_seed_zero :
    let host := directoryHost []
    (run host ["--seed=0".toList, "roll".toList, "d6".toList]).asked = [some (.value 0)] ∧
      (run host ["serve".toList, "--host=::1".toList, "--port=9001".toList]).started =
        some ⟨"dicemode.main:app".toList, "::1".toList, 9001, "info".toList⟩ := by
  intro host
  have level := directoryHost_level []
  obtain ⟨-, seeded, -⟩ := options_override_settings host [.seed ⟨"0".toList, 0, by decide⟩] (.inr level)
  obtain ⟨-, -, served⟩ := options_override_settings host [] (.inr level)
  have read := read_roll host.keepsMark (List.cons_ne_nil "d6".toList []) (by decide)
  have asked := (seeded _ _ _ (by decide) read (by simp)).1
  have started := served [.host "::1".toList, .port ⟨"9001".toList, 9001, by decide⟩]
  exact ⟨asked, congrArg Outcome.started started⟩

/-- To ask for the port zero, any free one, starts the service on the port of the settings. -/
theorem serve_on_port_zero :
    (run (directoryHost []) ["serve".toList, "--port=0".toList]).started =
      some ⟨"dicemode.main:app".toList, "127.0.0.1".toList, 8000, "info".toList⟩ := by
  have started := @run_serving Twister _ (directoryHost []) [] (.inr (directoryHost_level []))
    [.port ⟨"0".toList, 0, by decide⟩]
  exact congrArg Outcome.started started

end InlineDice.CommandLine
