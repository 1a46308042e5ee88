import InlineDice.Proofs.CommandOptions
import InlineDice.Proofs.EncodedTexts
import InlineDice.Proofs.ExpandedDocuments
import InlineDice.Proofs.LineEndCounts

namespace InlineDice.CommandLine

open Arguments

/-- A flag may follow the operand. -/
theorem Grammar.parse_operand_flag {ρ : Type} {g : Grammar ρ} {set : Text → ρ → ρ}
    (takes : g.operands = .atMostOne set) {arg : Text} (operand : arg.head? ≠ some '-') {name : Text}
    (dash : name.head? = some '-') (notMark : name ≠ mark) {s : Switch ρ}
    (named : g.named name = some s) {change : ρ → ρ} (flag : s.effect = .flag change) (values : ρ) :
    g.parse values [arg, name] = .ok (change (set arg values), []) := by
  have plain : arg ≠ mark := by
    rintro rfl
    exact operand rfl
  have front : [arg, name].takeWhile (· ≠ mark) = [arg, name] := by simp [plain, notMark]
  have back : [arg, name].dropWhile (· ≠ mark) = [] := by simp [plain, notMark]
  have first : g.classify arg = .ok .operand := if_pos operand
  have second : g.classify name = .ok (.option s name none) := classify_named dash named
  have ended (values : ρ) : g.readAll none ⟨values, true, []⟩ [] = .ok (values, []) := by
    rw [readAll.eq_def]
    rfl
  unfold parse
  simp only [front, back, List.mapM_cons, List.mapM_nil, first, second, bind, Except.bind, pure,
    Except.pure]
  rw [readAll.eq_def]
  simp only [takes]
  rw [readAll.eq_def]
  simp only [bind, Except.bind, pure, Except.pure, flag, performAll, perform, List.nil_append,
    List.foldlM_cons, List.foldlM_nil, ended]

theorem Arguments.read_expand_strict (keepsMark : Bool) {path : Text}
    (operand : path.head? ≠ some '-') :
    read keepsMark ["expand".toList, path, "--strict".toList] =
      .ok ⟨false, none, some (.expand (some path) true)⟩ := by
  have takes : expandGrammar.operands = .atMostOne fun file values => (some file, values.2) := rfl
  have named : expandGrammar.named "--strict".toList =
    some ⟨["--strict".toList], .flag fun values => (values.1, true)⟩ := rfl
  have inner : expandGrammar.parse (none, false) [path, "--strict".toList] =
      .ok ((some path, true), []) :=
    Grammar.parse_operand_flag takes operand (by decide) (by decide) named rfl (none, false)
  have readable : readCommand keepsMark "expand".toList [path, "--strict".toList] =
      .ok (.expand (some path) true, []) := by
    rw [readCommand, if_neg (by decide), if_pos rfl, inner]
    rfl
  refine read_cons_command (by decide) (fun arg member => ?_) readable
  rcases List.mem_pair.mp member with rfl | rfl
  · exact ⟨.operand, if_pos operand⟩
  · exact ⟨.unknown, rfl⟩

theorem Arguments.read_expand_file (keepsMark : Bool) {path : Text}
    (operand : path.head? ≠ some '-') (strict : Bool) :
    read keepsMark ("expand".toList :: path :: if strict then ["--strict".toList] else []) =
      .ok ⟨false, none, some (.expand (some path) strict)⟩ := by
  cases strict with
  | false => exact read_expand keepsMark operand
  | true => exact read_expand_strict keepsMark operand

theorem Outcome.succeeds_with_asked_iff {outcome : Outcome} {asked : List (Option (Given Int))}
    {page : Text} : Succeeds { outcome with asked } page ↔ outcome.Succeeds page :=
  ⟨fun done => ⟨done.ending, done.stdout⟩, fun done => ⟨done.ending, done.stdout⟩⟩

section

variable {σ : Type} [RandomSource σ] {host : Host σ} {given : Option (Given Int)} {notes strict : Bool}

/-- To expand a file succeeds with what comes of its text once the line ends are unified, and with
nothing else. -/
theorem Command.run_expand_succeeds_iff (counts : given ≠ some .nothing) {path : Text}
    (other : path ≠ ['-']) {text : Text} (reads : host.Reads (some path) (Utf8.encode text))
    {page : Text} :
    ((Command.expand (some path) strict).run host given notes).Succeeds page ↔
      ∃ out, ((host.settings.pipeline.expand strict (Text.unifyLineEnds text)).run
        (host.source (given.bind Given.value?))).outcome = .ok out ∧ out.text = page := by
  obtain ⟨work, ran, onText, -⟩ := Command.run_expand host given notes (some path) strict
  obtain ⟨own, ready, asked, worked, draws⟩ := host.atPipeline_of_counts counts work
  have came : document host (some path) = .ok (Text.unifyLineEnds text) := by
    rw [document_of_reads reads, host.decode_of_path other, Utf8.decode_encode]
    rfl
  rw [ran, worked, onText _ came, Outcome.succeeds_with_asked_iff]
  rcases perform_cases notes (fun p => p.expand strict (Text.unifyLineEnds text)) Expanded.text
      (fun e => replacedText e.replaced) (⟨host.settings.pipeline, own⟩, ready) draws
      (Pipeline.expand_failsIn_oneLine Registry.builtin_failsApart _ _ _) with
    ⟨out, expanded, succeeds⟩ | ⟨fault, failed, -, fails⟩ | ⟨fault, failed, -, breaks⟩
  · constructor
    · exact fun done => ⟨out, expanded, succeeds.stdout.symm.trans done.stdout⟩
    · rintro ⟨again, same, rfl⟩
      rw [expanded] at same
      cases same
      exact succeeds
  · simp [failed, fails.not_succeeds]
  · simp [failed, breaks.not_succeeds]

/-- The arguments that expand a file with a seed. -/
def expandArgs (seed : WrittenInteger) (path : Text) (strict : Bool) : List Text :=
  (Leading.seed seed).arg :: "expand".toList :: path :: if strict then ["--strict".toList] else []

theorem run_expandArgs (host : Host σ) (level : Case.upper host.settings.logLevel ∈ levels)
    (seed : WrittenInteger) (strict : Bool) {path : Text} (operand : path.head? ≠ some '-')
    {text : Text} (reads : host.Reads (some path) (Utf8.encode text)) :
    (run host (expandArgs seed path strict)).asked = [some (.value seed.value)] ∧
    ∀ page, (run host (expandArgs seed path strict)).Succeeds page ↔
      ∃ out, ((host.settings.pipeline.expand strict (Text.unifyLineEnds text)).run
        (host.supply.given 0 (some seed.value))).outcome = .ok out ∧ out.text = page := by
  have read : Arguments.read host.keepsMark (expandArgs seed path strict) =
      .ok ⟨false, some (.value seed.value), some (.expand (some path) strict)⟩ := by
    have whole := read_leading host.keepsMark [.seed seed] (by decide : "expand".toList.head? ≠ some '-')
      (path :: if strict then ["--strict".toList] else [])
    rw [read_expand_file _ operand] at whole
    exact whole
  obtain ⟨notes, ran⟩ := run_of_read host level read
  have notDash : path ≠ ['-'] := by
    rintro rfl
    exact operand rfl
  rw [ran, Command.asked_run host _ notes (by simp)]
  exact ⟨rfl, fun page => Command.run_expand_succeeds_iff (by simp) notDash reads⟩

/-- To expand a file with a seed writes what comes of its text, on a source with that seed, once the
line ends are unified. That is what comes of the text itself if and only if there is no carriage
return in it: none is kept, and it always shows. -/
theorem expanded_file_agrees_iff (host : Host σ) (level : Case.upper host.settings.logLevel ∈ levels)
    (seed : WrittenInteger) (strict : Bool) {path : Text} (operand : path.head? ≠ some '-')
    {text : Text} (reads : host.Reads (some path) (Utf8.encode text)) :
    let p := host.settings.pipeline
    let source := host.supply.given 0 (some seed.value)
    let ran := run host (expandArgs seed path strict)
    ran.asked = [some (.value seed.value)] ∧
    (∀ page, ran.Succeeds page ↔
      ∃ out, ((p.expand strict (Text.unifyLineEnds text)).run source).outcome = .ok out ∧
        out.text = page) ∧
    ∀ out, ((p.expand strict text).run source).outcome = .ok out →
      (ran.Succeeds out.text ↔ '\r' ∉ text) := by
  intro p source ran
  obtain ⟨asked, succeeds⟩ := run_expandArgs host level seed strict operand reads
  refine ⟨asked, succeeds, fun out expanded => (succeeds out.text).trans ?_⟩
  constructor
  · rintro ⟨unified, expandedUnified, same⟩
    exact Pipeline.return_not_mem_of_expand rfl expanded expandedUnified same
  · intro free
    rw [(Text.unifyLineEnds_of_not_mem free).1]
    exact ⟨out, expanded, rfl⟩

end

/-- A host with one file, whose dice all show a one. -/
def fileHost (text : Text) : Host Lowest where
  settings := .default
  supply := .common .lowest
  input := []
  decodeInput := fun bytes => (Utf8.decode bytes).mapError Utf8.Failure.message
  openFile := Directory.opener [("a.txt".toList, Utf8.encode text)]
  keepsMark := true

theorem expanded_file_agrees_iff_two_lines :
    let args := ["--seed=7".toList, "expand".toList, "a.txt".toList, "--strict".toList]
    (∃ out, ((Pipeline.default.expand true "2d6\nd4".toList).run Lowest.lowest).outcome = .ok out ∧
      (run (fileHost "2d6\nd4".toList) args).Succeeds out.text) ∧
    ∃ out, ((Pipeline.default.expand true "2d6\r\nd4".toList).run Lowest.lowest).outcome = .ok out ∧
      ¬(run (fileHost "2d6\r\nd4".toList) args).Succeeds out.text := by
  intro args
  have level : Case.upper Settings.default.logLevel ∈ levels := by decide
  have kept : ((Pipeline.default.expand true "2d6\nd4".toList).run Lowest.lowest).outcome.toBool =
      true := by
    decide +kernel
  have lost : ((Pipeline.default.expand true "2d6\r\nd4".toList).run Lowest.lowest).outcome.toBool =
      true := by
    decide +kernel
  obtain ⟨out, kept⟩ := toBool_eq_true_iff.mp kept
  obtain ⟨document, lost⟩ := toBool_eq_true_iff.mp lost
  obtain ⟨-, -, agrees⟩ := expanded_file_agrees_iff (fileHost "2d6\nd4".toList) level
    ⟨"7".toList, 7, by decide⟩ true (by decide : "a.txt".toList.head? ≠ some '-')
    (.file (by decide) (by decide) rfl)
  obtain ⟨-, -, differs⟩ := expanded_file_agrees_iff (fileHost "2d6\r\nd4".toList) level
    ⟨"7".toList, 7, by decide⟩ true (by decide : "a.txt".toList.head? ≠ some '-')
    (.file (by decide) (by decide) rfl)
  exact ⟨⟨out, kept, (agrees out kept).mpr (by decide)⟩,
    document, lost, (differs document lost).not.mpr (by decide)⟩

/-- A line that is not dice comes out of a file without the carriage return at its end, though the
pipeline lets it stand. -/
theorem expand_file_drops_return :
    ((Pipeline.default.expand false "hi\r\n".toList).run (Twister.ofSeed 1)).outcome =
        .ok ⟨"hi\r\n".toList, 0⟩ ∧
      (run (directoryHost [("a.txt".toList, Utf8.encode "hi\r\n".toList)])
        ["--seed=1".toList, "expand".toList, "a.txt".toList]).Succeeds "hi\n".toList := by
  have plain {s : Text} (lines : ∀ piece ∈ s.splitOn '\n', Notation.isDiceLine piece = false) :
      ((Pipeline.default.expand false s).run (Twister.ofSeed 1)).outcome = .ok ⟨s, 0⟩ := by
    rw [Pipeline.expand_of_isPlain _ lines]
  have succeeds := (run_expandArgs (directoryHost [("a.txt".toList, Utf8.encode "hi\r\n".toList)])
    (directoryHost_level _) ⟨"1".toList, 1, by decide⟩ false
    (by decide : "a.txt".toList.head? ≠ some '-') (.file (by decide) (by decide) rfl)).2
  exact ⟨plain (by decide), (succeeds _).mpr ⟨⟨"hi\n".toList, 0⟩, plain (by decide), rfl⟩⟩

end InlineDice.CommandLine
