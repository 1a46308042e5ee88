import InlineDice.Proofs.ReportReading

namespace InlineDice

open Notation

/-- Where a processor fails, that is no fault of the dice text. -/
def Processor.FailsApart (processor : Processor) : Prop :=
  ∀ rolls fault, processor.call rolls = .error fault → fault.isDice = false

namespace Registry

/-- No processor of a registry ends in a fault of the dice text, which was read before it was called. -/
def FailsApart (r : Registry) : Prop := ∀ entry ∈ r.entries, entry.2.FailsApart

theorem FailsApart.of_find? {r : Registry} (apart : r.FailsApart) {symbol : Char}
    {processor : Processor} (held : r.find? symbol = some processor) : processor.FailsApart := by
  obtain ⟨before, after, entries, -⟩ := List.lookup_eq_some_iff.mp held
  exact apart (symbol, processor) (by simp [entries])

theorem builtin_failsApart : builtin.FailsApart := by
  intro entry member rolls fault failed
  simp only [builtin, List.mem_cons, List.not_mem_nil, or_false] at member
  rcases member with rfl | rfl | rfl <;> cases failed

end Registry

namespace Notation

variable {σ : Type} [RandomSource σ] {r : Registry} {token : Token} {source rest : σ} {fault : Fault}
  {own : List Draw}

theorem Token.Fails.draws_prefix (fails : token.Fails r source fault own rest) :
    own <+: token.draws := by
  cases fails with
  | dry few answers dry =>
    rw [Token.draws, List.prefix_replicate_iff, List.length_replicate]
    exact ⟨few, rfl⟩
  | processor => exact List.prefix_refl _

theorem Token.Fails.isDice_eq_false (apart : r.FailsApart)
    (fails : token.Fails r source fault own rest) : fault.isDice = false := by
  cases fails with
  | dry => rfl
  | processor answers named held fails => exact apart.of_find? held _ _ fails

end Notation

namespace Pipeline

variable {σ : Type} [RandomSource σ] {p : Pipeline} {tokens : List Token} {source : σ}

/-- How a roll of tokens goes once they are read. Either every draw is answered and every processor
works, and the instructions are written as a report if they can be; or a token fails after those
before it have been thrown, and nothing more is drawn. -/
inductive Course (p : Pipeline) (tokens : List Token) (source : σ) : Played σ Text → Prop
  | full {throws : List Throw} {rest : σ} (thrown : Thrown p.registry tokens source throws rest) :
      Course p tokens source
        ⟨Report.write p.label (p.layout tokens) (throws.map Throw.instruction), rest,
          tokens.flatMap Token.draws, [.rolled throws.length (p.layout tokens).plural]⟩
  | stopped {done later : List Token} {token : Token} {throws : List Throw} {fault : Fault}
      {own : List Draw} {mid rest : σ} (split : tokens = done ++ token :: later)
      (thrown : Thrown p.registry done source throws mid)
      (fails : token.Fails p.registry mid fault own rest) :
      Course p tokens source ⟨.error fault, rest, done.flatMap Token.draws ++ own, []⟩

theorem Course.draws_prefix {played : Played σ Text} (course : p.Course tokens source played) :
    played.draws <+: tokens.flatMap Token.draws := by
  cases course with
  | full => exact List.prefix_refl _
  | stopped split thrown fails =>
    obtain ⟨missing, whole⟩ := fails.draws_prefix
    subst split
    rw [List.flatMap_append, List.flatMap_cons, ← whole, List.append_assoc]
    exact (List.prefix_append_right_inj _).mpr (List.prefix_append _ _)

/-- There is a report only of tokens that were all thrown, and it shows their throws in order. -/
theorem Course.of_report {played : Played σ Text} (course : p.Course tokens source played)
    {report : Text} (written : played.outcome = .ok report) :
    ∃ throws, Thrown p.registry tokens source throws played.source ∧
      played.draws = tokens.flatMap Token.draws ∧
      report = Report.render p.label (p.layout tokens) (throws.map Throw.instruction) := by
  cases course with
  | full thrown => exact ⟨_, thrown, rfl, (Report.write_eq_ok_iff.mp written).2.symm⟩
  | stopped => cases written

/-- Once its text is read, a roll has no fault of the dice text but for one that a processor brings up. -/
theorem Course.isDice_of_fault (apart : p.registry.FailsApart) {played : Played σ Text}
    (course : p.Course tokens source played) {fault : Fault} (failed : played.outcome = .error fault) :
    fault.isDice = false := by
  cases course with
  | full => exact Report.isDice_of_write failed
  | stopped split thrown fails =>
    cases failed
    exact fails.isDice_eq_false apart

theorem roll_eq_of_course {text : Text} (read : p.tokens text = .ok tokens) {played : Played σ Text}
    (course : p.Course tokens source played) : (p.roll text).run source = played := by
  have sound := isSound_of_tokens read
  unfold Pipeline.roll
  rw [read, Play.run_bind_of_run (Play.run_ofExcept _ source)]
  cases course with
  | full thrown =>
    rw [Play.run_bind_of_run (rollTokens_of_thrown sound thrown)]
    dsimp only
    rw [Play.run_bind_of_run (Play.run_note _ _), Play.run_ofExcept]
    simp [Played.followedBy]
  | stopped split thrown fails =>
    subst split
    have stops := rollTokens_of_fails sound thrown fails
    rw [Play.run_bind_of_error (by rw [stops]), stops]
    rfl

/-- How a roll goes once its text is read is decided by its tokens, the source and the processors. -/
theorem roll_eq_iff_course {text : Text} (read : p.tokens text = .ok tokens)
    {played : Played σ Text} :
    (p.roll text).run source = played ↔ p.Course tokens source played := by
  constructor
  · rintro rfl
    rcases thrown_or_stopped (isSound_of_tokens read) source with ⟨throws, rest, thrown⟩ |
      ⟨done, token, later, throws, mid, fault, own, rest, split, thrown, fails⟩
    · have course := Course.full thrown
      rwa [roll_eq_of_course read course]
    · have course := Course.stopped split thrown fails
      rwa [roll_eq_of_course read course]
  · exact roll_eq_of_course read

/-- A text that comes to a report has been read, and the report shows the throws of its tokens. -/
theorem roll_eq_ok {text report : Text} (ran : ((p.roll text).run source).outcome = .ok report) :
    ∃ tokens throws, p.tokens text = .ok tokens ∧
      Thrown p.registry tokens source throws ((p.roll text).run source).source ∧
      ((p.roll text).run source).draws = tokens.flatMap Token.draws ∧
      report = Report.render p.label (p.layout tokens) (throws.map Throw.instruction) := by
  cases read : p.tokens text with
  | error fault =>
    rw [roll_of_unread read] at ran
    cases ran
  | ok tokens =>
    have course := (roll_eq_iff_course read).mp (rfl : (p.roll text).run source = _)
    obtain ⟨throws, thrown, draws, rendered⟩ := course.of_report ran
    exact ⟨tokens, throws, rfl, thrown, draws, rendered⟩

/-- A report shows the instructions that the tokens of its text come to, under their names. -/
theorem exists_instructions {text report : Text}
    (ran : ((p.roll text).run source).outcome = .ok report) :
    ∃ tokens instructions, p.tokens text = .ok tokens ∧
      ((p.rollTokens tokens).run source).outcome = .ok instructions ∧
      instructions.map Instruction.name = tokens.map Token.name ∧
      report = Report.render p.label (p.layout tokens) instructions := by
  obtain ⟨tokens, throws, read, thrown, -, rendered⟩ := roll_eq_ok ran
  have rolled := rollTokens_of_thrown (isSound_of_tokens read) thrown
  refine ⟨tokens, throws.map Throw.instruction, read, by rw [rolled], ?_, rendered⟩
  rw [List.map_map]
  exact thrown.names

/-- Instructions that tokens come to have their names. -/
theorem isName_of_thrown {text : Text} (read : p.tokens text = .ok tokens) {throws : List Throw}
    {rest : σ} (thrown : Thrown p.registry tokens source throws rest) :
    ∀ i ∈ throws.map Throw.instruction, IsName i.name := by
  intro i member
  obtain ⟨throw, cast, rfl⟩ := List.mem_map.mp member
  obtain ⟨token, among, ofToken⟩ := forall₂_exists_left thrown.each throw cast
  rw [ofToken.name]
  exact isName_of_tokens read token among

/-- Every report consists of whole lines of which none is a dice line. -/
theorem exists_lines_of_roll {text report : Text} (wholeLabel : '\n' ∉ p.label)
    (ran : ((p.roll text).run source).outcome = .ok report) :
    ∃ lines : List Text, report = ['\n'].intercalate lines ++ ['\n'] ∧
      ∀ line ∈ lines, '\n' ∉ line ∧ isDiceLine line = false := by
  obtain ⟨tokens, throws, read, thrown, -, rfl⟩ := roll_eq_ok ran
  have wholeNames : ∀ i ∈ throws.map Throw.instruction, '\n' ∉ i.name := fun i member =>
    (isName_of_thrown read thrown i member).not_mem (by decide)
  refine ⟨_, Report.render_eq_intercalate .., ?_⟩
  intro line member
  exact ⟨Report.lineFeed_not_mem_of_mem_lines wholeLabel wholeNames member,
    Report.isDiceLine_of_mem_lines member⟩

/-- A fault of the dice text is one that reading it comes to, unless a processor brings it up. -/
theorem tokens_of_isDice (apart : p.registry.FailsApart) {text : Text} {fault : Fault}
    (dice : fault.isDice = true) (ran : ((p.roll text).run source).outcome = .error fault) :
    p.tokens text = .error fault := by
  cases read : p.tokens text with
  | error other =>
    rw [roll_of_unread read] at ran
    cases ran
    rfl
  | ok tokens =>
    have course := (roll_eq_iff_course read).mp (rfl : (p.roll text).run source = _)
    have other := course.isDice_of_fault apart ran
    rw [dice] at other
    cases other

end Pipeline

/-- All tokens are read before any die is rolled, and then the source is used as the text says. Without
a token, or with one that cannot be read, nothing is drawn and the text or the first such token is
at fault. Otherwise the dice are drawn token by token, each processor works on the values drawn for
its own token, and a roll that stops midway has drawn no others. What is read off a report are the
instructions of the tokens in order. -/
theorem roll_reads_before_drawing {σ : Type} [RandomSource σ] (p : Pipeline) (text : Text)
    (source : σ) :
    (tokenize text = [] →
      (p.roll text).run source = ⟨.error (.malformedLine text), source, [], []⟩) ∧
    (∀ before t after fault, tokenize text = before ++ t :: after →
      (∀ earlier ∈ before, IsReadable p.registry.contains earlier) →
      Token.parse p.registry.contains t = .error fault →
      (p.roll text).run source = ⟨.error fault, source, [], []⟩) ∧
    ∀ tokens, tokenize text ≠ [] →
      List.Forall₂ (fun t token => Token.parse p.registry.contains t = .ok token)
        (tokenize text) tokens →
      (∀ played, (p.roll text).run source = played ↔ p.Course tokens source played) ∧
      ((p.roll text).run source).draws <+: tokens.flatMap Token.draws ∧
      ∀ report, ((p.roll text).run source).outcome = .ok report →
        ∃ throws, Thrown p.registry tokens source throws ((p.roll text).run source).source ∧
          throws.map (fun throw => throw.instruction.name) = tokens.map Token.name ∧
          ((p.roll text).run source).draws = tokens.flatMap Token.draws ∧
          report = Report.render p.label (p.layout tokens) (throws.map Throw.instruction) ∧
          ('\n' ∉ p.label → Report.read report =
            ((p.layout tokens).plural, throws.map Throw.instruction)) := by
  refine ⟨?_, ?_, ?_⟩
  · intro empty
    exact Pipeline.roll_of_unread (Pipeline.tokens_eq_error_iff.mpr (.inr ⟨empty, rfl⟩)) source
  · intro before t after fault split readable failed
    have unread : p.tokens text = .error fault :=
      Pipeline.tokens_eq_error_iff.mpr (.inl (mapM_eq_error_iff.mpr
        ⟨before, t, after, split, readable, failed⟩))
    exact Pipeline.roll_of_unread unread source
  · intro tokens some parsed
    have read : p.tokens text = .ok tokens :=
      (Pipeline.tokens_eq_mapM some).trans (mapM_eq_ok_iff.mpr parsed)
    have course := (Pipeline.roll_eq_iff_course read).mp (rfl : (p.roll text).run source = _)
    refine ⟨fun played => Pipeline.roll_eq_iff_course read, course.draws_prefix, ?_⟩
    intro report written
    obtain ⟨throws, thrown, draws, rendered⟩ := course.of_report written
    refine ⟨throws, thrown, thrown.names, draws, rendered, fun wholeLabel => ?_⟩
    rw [rendered]
    exact Report.read_render wholeLabel (Pipeline.isName_of_thrown read thrown)

/-- A source with three answers left. -/
def threeAnswers : Script := .once [3, 5, 2]

theorem roll_reads_before_drawing_three_answers :
    (tokenize " ,\t".toList = [] ∧
      (Pipeline.default.roll " ,\t".toList).run threeAnswers =
        ⟨.error (.malformedLine " ,\t".toList), threeAnswers, [], []⟩) ∧
    (tokenize "2d6 d0 x".toList = ["2d6".toList] ++ "d0".toList :: ["x".toList] ∧
      (∀ earlier ∈ ["2d6".toList], IsReadable Pipeline.default.registry.contains earlier) ∧
      Token.parse Pipeline.default.registry.contains "d0".toList =
        .error (.malformedToken "d0".toList .noFaces) ∧
      (Pipeline.default.roll "2d6 d0 x".toList).run threeAnswers =
        ⟨.error (.malformedToken "d0".toList .noFaces), threeAnswers, [], []⟩) ∧
    (tokenize "2d6+, d4".toList ≠ [] ∧
      ∃ (report : Text) (throws : List Throw),
        ((Pipeline.default.roll "2d6+, d4".toList).run threeAnswers).outcome = .ok report ∧
        throws.map (fun throw => throw.instruction.name) = ["2d6+".toList, "1d4".toList] ∧
        ((Pipeline.default.roll "2d6+, d4".toList).run threeAnswers).draws =
          [⟨1, 6⟩, ⟨1, 6⟩, ⟨1, 4⟩] ∧
        Answers threeAnswers [⟨1, 6⟩, ⟨1, 6⟩, ⟨1, 4⟩] (throws.flatMap Throw.values)
          ((Pipeline.default.roll "2d6+, d4".toList).run threeAnswers).source) := by
  have readable : ∀ earlier ∈ ["2d6".toList],
      IsReadable Pipeline.default.registry.contains earlier :=
    List.forall_mem_singleton.mpr ⟨⟨"2d6".toList, 2, 6, none⟩, rfl⟩
  have split : tokenize "2d6 d0 x".toList = ["2d6".toList] ++ "d0".toList :: ["x".toList] := by
    decide
  have bad : Token.parse Pipeline.default.registry.contains "d0".toList =
      .error (.malformedToken "d0".toList .noFaces) := by rfl
  have parsed : (tokenize "2d6+, d4".toList).mapM (Token.parse Pipeline.default.registry.contains) =
      .ok [⟨"2d6+".toList, 2, 6, some '+'⟩, ⟨"1d4".toList, 1, 4, none⟩] := by rfl
  have rolled :
      ((Pipeline.default.roll "2d6+, d4".toList).run threeAnswers).outcome.toBool = true := by
    decide +kernel
  obtain ⟨report, ran⟩ := toBool_eq_true_iff.mp rolled
  obtain ⟨empty, -, -⟩ := roll_reads_before_drawing .default " ,\t".toList threeAnswers
  obtain ⟨-, unread, -⟩ := roll_reads_before_drawing .default "2d6 d0 x".toList threeAnswers
  obtain ⟨-, -, read⟩ := roll_reads_before_drawing .default "2d6+, d4".toList threeAnswers
  have some : tokenize "2d6+, d4".toList ≠ [] := by decide
  obtain ⟨-, -, reported⟩ := read _ some (mapM_eq_ok_iff.mp parsed)
  obtain ⟨throws, thrown, names, draws, -⟩ := reported report ran
  exact ⟨⟨by decide, empty (by decide)⟩,
    ⟨split, readable, bad, unread _ _ _ _ split readable bad⟩,
    some, report, throws, ran, names, draws, thrown.answers⟩

end InlineDice
