import InlineDice.Proofs.CommandDocuments
import InlineDice.Proofs.CommandOperands
import InlineDice.Proofs.CommandSeeds
import InlineDice.Proofs.DocumentFaults
import InlineDice.Proofs.SharedPipeline

namespace InlineDice.CommandLine

open Notation

/-- A text ends in a line that tells of an error. -/
def EndsInError (s : Text) : Prop :=
  ∃ before message, s = before ++ ("error: ".toList ++ message ++ ['\n']) ∧ '\n' ∉ message ∧
    (before = [] ∨ before.getLast? = some '\n')

theorem noteText_getLast? (note : Note) : (noteText note).getLast? = some '\n' := by
  unfold noteText noteLine
  cases note <;> exact List.getLast?_concat

theorem notes_end_in_lineFeed (notes : List Note) :
    notes.flatMap noteText = [] ∨ (notes.flatMap noteText).getLast? = some '\n' := by
  rcases List.eq_nil_or_concat notes with rfl | ⟨before, last, rfl⟩
  · exact .inl rfl
  · refine .inr ?_
    rw [List.concat_eq_append, List.flatMap_append, List.flatMap_singleton,
      List.getLast?_append, noteText_getLast?]
    rfl

namespace Outcome

/-- A run has come to its end, and written all of a page. -/
structure Succeeds (outcome : Outcome) (page : Text) : Prop where
  ending : outcome.ending = .returned 0
  stdout : outcome.stdout = page

/-- A run has failed: nothing is written, and an error is told. -/
structure Fails (outcome : Outcome) : Prop where
  ending : outcome.ending = .returned 1
  stdout : outcome.stdout = []
  stderr : EndsInError outcome.stderr

/-- A run is broken off by a fault that it does not answer. Nothing is written then either. -/
structure BreaksOff (outcome : Outcome) : Prop where
  ending : ∃ fault, outcome.ending = .escaped fault
  stdout : outcome.stdout = []

theorem Fails.not_succeeds {outcome : Outcome} (fails : outcome.Fails) {page : Text} :
    ¬outcome.Succeeds page := by
  intro succeeds
  have ended := fails.ending
  rw [succeeds.ending] at ended
  cases ended

theorem BreaksOff.not_succeeds {outcome : Outcome} (breaks : outcome.BreaksOff) {page : Text} :
    ¬outcome.Succeeds page := by
  intro succeeds
  obtain ⟨fault, escaped⟩ := breaks.ending
  rw [succeeds.ending] at escaped
  cases escaped

theorem failed_of_isDice {fault : Fault} (dice : fault.isDice = true) :
    failed fault = { ofEnding (.returned 1) with
      stderr := "error: ".toList ++ fault.message ++ ['\n'] } := if_pos dice

theorem breaksOff_failed {fault : Fault} (other : fault.isDice = false) :
    (failed fault).BreaksOff := by
  unfold failed
  rw [other]
  exact ⟨⟨fault, rfl⟩, rfl⟩

end Outcome

section

variable {σ α : Type}

/-- What is played decides how a run ends: with a result it is written as a page, a fault of the dice
text is told, and any other fault breaks the run off. -/
theorem perform_cases (notes : Bool) (play : Pipeline → Play σ α) (page : α → Text)
    (lastNote : α → Text) (place : Station σ × Workbench σ) {source : σ}
    (draws : place.2.DrawsFrom place.1.own source)
    (oneLine : ∀ fault, ((play place.1.pipeline).run source).outcome = .error fault →
      fault.isDice = true → '\n' ∉ fault.message) :
    (∃ a, ((play place.1.pipeline).run source).outcome = .ok a ∧
      (perform notes play page lastNote place).Succeeds (page a)) ∨
    (∃ fault, ((play place.1.pipeline).run source).outcome = .error fault ∧ fault.isDice = true ∧
      (perform notes play page lastNote place).Fails) ∨
    ∃ fault, ((play place.1.pipeline).run source).outcome = .error fault ∧ fault.isDice = false ∧
      (perform notes play page lastNote place).BreaksOff := by
  obtain ⟨left, after, played, -⟩ :=
    Workbench.playAt_of_drawsFrom (p := place.1.pipeline) draws (play place.1.pipeline)
  have same : (place.2.playAt place.1 (play place.1.pipeline)).1 =
      (play place.1.pipeline).run source := congrArg Prod.fst played
  unfold perform
  rw [same]
  generalize (play place.1.pipeline).run source = result at oneLine ⊢
  rcases result with ⟨fault | a, rest, drawn, remarks⟩
  · refine .inr ?_
    cases dice : fault.isDice with
    | true =>
      refine .inl ⟨fault, rfl, dice, ?_⟩
      dsimp only
      rw [Outcome.failed_of_isDice dice]
      have side : (if notes then remarks.flatMap noteText else []) = [] ∨
          (if notes then remarks.flatMap noteText else []).getLast? = some '\n' := by
        cases notes
        · exact .inl rfl
        · exact notes_end_in_lineFeed remarks
      exact ⟨rfl, rfl, _, fault.message, rfl, oneLine fault rfl dice, side⟩
    | false =>
      have breaks := Outcome.breaksOff_failed dice
      exact .inr ⟨fault, rfl, dice, breaks.ending, breaks.stdout⟩
  · exact .inl ⟨a, rfl, rfl, rfl⟩

namespace Host

/-- The source that a command draws from, by the seed that it is given or else by that of the settings. -/
def source (host : Host σ) (seed : Option Int) : σ :=
  host.supply.given 0 (seed.or host.settings.rngSeed)

theorem build_drawsFrom (settings : Settings) (supply : Supply σ) (seed : Option Int) :
    ∃ own ready, (Workbench.new settings supply).build none seed =
        (⟨settings.pipeline, own⟩, ready) ∧
      ready.DrawsFrom own (supply.given 0 (seed.or settings.rngSeed)) :=
  ⟨_, _, rfl, Workbench.drawsFrom_given supply 0 _ rfl⟩

/-- Work is done at a pipeline on a source with the seed that counts. -/
theorem atPipeline_of_counts (host : Host σ) {given : Option (Given Int)}
    (counts : given ≠ some .nothing) (work : Station σ × Workbench σ → Outcome) :
    ∃ own ready asked, host.atPipeline given work =
        { work (⟨host.settings.pipeline, own⟩, ready) with asked } ∧
      ready.DrawsFrom own (host.source (given.bind Given.value?)) := by
  have seeds : (((given.or (host.settings.rngSeed.map .value)).bind Given.value?).or
      host.settings.rngSeed) = (given.bind Given.value?).or host.settings.rngSeed := by
    cases given with
    | some g => rfl
    | none => cases host.settings.rngSeed <;> rfl
  obtain ⟨own, ready, built, draws⟩ := build_drawsFrom host.settings host.supply
    ((given.or (host.settings.rngSeed.map .value)).bind Given.value?)
  rw [seeds] at draws
  refine ⟨own, ready, [given.or (host.settings.rngSeed.map .value)], ?_, draws⟩
  rw [← built]
  unfold atPipeline
  dsimp only
  split
  -- Settings hold a seed or none, so nothing at all comes only from the command line.
  · next atSeed _ =>
    refine absurd ?_ counts
    cases given with
    | some g => exact atSeed
    | none => cases seed : host.settings.rngSeed <;> simp [seed] at atSeed
  · rfl

end Host

end

section

variable {σ : Type}

/-- What a command does not answer: a name that cannot be a path, bytes that are no text, and dice that
are too much. -/
inductive Command.Escapes (host : Host σ) : Command → Prop
  | roll {texts : List Text}
      (tooMuch : host.settings.pipeline.Overreaches (Text.join [' '] texts)) :
      Escapes host (.roll texts)
  | path {path : Text} {strict : Bool} (notDash : path ≠ ['-']) (null : Char.ofNat 0 ∈ path) :
      Escapes host (.expand (some path) strict)
  | bytes {file : Option Text} {strict : Bool} {bytes : Bytes} {fault : Fault}
      (reads : host.Reads file bytes) (undecoded : host.decode file bytes = .error fault) :
      Escapes host (.expand file strict)
  | expand {file : Option Text} {strict : Bool} {bytes : Bytes} {text : Text}
      (reads : host.Reads file bytes) (decoded : host.decode file bytes = .ok text)
      (tooMuch : host.settings.pipeline.OverreachesIn strict (Text.unifyLineEnds text)) :
      Escapes host (.expand file strict)

variable {host : Host σ} {given : Option (Given Int)} {notes : Bool}

variable [RandomSource σ]

theorem Command.run_expand (host : Host σ) (given : Option (Given Int)) (notes : Bool)
    (file : Option Text) (strict : Bool) :
    ∃ work, (Command.expand file strict).run host given notes = host.atPipeline given work ∧
      (∀ text, document host file = .ok text → ∀ place, work place =
        perform notes (fun p => p.expand strict text) Expanded.text
          (fun e => replacedText e.replaced) place) ∧
      ∀ failure, document host file = .error failure → ∀ place, work place = failure := by
  rw [Command.run]
  refine ⟨_, rfl, ?_, ?_⟩
  · intro text came place
    simp only [came]
  · intro failure came place
    simp only [came]

/-- Notes are either shown or not, where a run is verbose or its log level is known. -/
theorem exists_showsNotes {verbose : Bool} {level : Text}
    (logs : verbose = true ∨ Case.upper level ∈ levels) :
    ∃ notes, showsNotes verbose level = .ok notes := by
  unfold showsNotes
  cases verbose with
  | true => exact ⟨true, rfl⟩
  | false => exact ⟨_, if_pos (List.contains_iff_mem.mpr (logs.resolve_left Bool.false_ne_true))⟩

theorem run_of_read (host : Host σ) (level : Case.upper host.settings.logLevel ∈ levels)
    {args : List Text} {verbose : Bool} {seed : Option (Given Int)} {command : Command}
    (read : Arguments.read host.keepsMark args = .ok ⟨verbose, seed, some command⟩) :
    ∃ notes, run host args = command.run host seed notes := by
  obtain ⟨notes, shown⟩ := exists_showsNotes (.inr level)
  exact ⟨notes, run_of_shows host read shown⟩

end

/-- A host on the default settings in a directory of files, with nothing on its standard input. -/
def directoryHost (files : Directory) : Host Twister where
  settings := .default
  supply := .each fun seed => Twister.ofSeed (seed.getD 0)
  input := []
  decodeInput := fun bytes => (Utf8.decode bytes).mapError Utf8.Failure.message
  openFile := Directory.opener files
  keepsMark := true

theorem directoryHost_level (files : Directory) :
    Case.upper (directoryHost files).settings.logLevel ∈ levels := by
  have standard : Case.upper Settings.default.logLevel ∈ levels := by decide
  exact standard

end InlineDice.CommandLine
