import InlineDice.Processor.Recipe
import InlineDice.Proofs.RegistryGrowth
import InlineDice.Proofs.RollCourse

namespace InlineDice

open Notation

namespace Notation.Token

/-- A token has no processor, or the same one in both registries. -/
def ServedAlike (r s : Registry) (token : Token) : Prop :=
  ∀ symbol ∈ token.processor, r.find? symbol = s.find? symbol

/-- The values drawn for a token and the processor it names decide the instruction it comes to. -/
theorem Throws.instruction_eq {r s : Registry} {token : Token} {throw other : Throw}
    (throws : token.Throws r throw) (again : token.Throws s other)
    (values : throw.values = other.values) (alike : token.ServedAlike r s) :
    throw.instruction = other.instruction := by
  have name : throw.instruction.name = other.instruction.name := throws.name.trans again.name.symm
  have result : throw.instruction.result = other.instruction.result := by
    cases named : token.processor with
    | none => rw [throws.unprocessed named, again.unprocessed named, values]
    | some symbol =>
      obtain ⟨processor, worked, held, works⟩ := throws.processed symbol named
      obtain ⟨same, workedAgain, heldAgain, worksAgain⟩ := again.processed symbol named
      rw [alike symbol named, heldAgain] at held
      injection held with held
      subst held
      rw [values, worksAgain] at works
      injection works with reply
      injection reply with answer
      exact answer.symm
  exact congrArg₂ Instruction.mk name result

end Notation.Token

/-- The dice of a token as two rolls throw them. -/
structure Twins where
  token : Token
  throw : Throw
  other : Throw

/-- Both rolls draw the same values for a token, and have the same instruction of it unless its
processor is another one. -/
structure Twins.Agree (r s : Registry) (t : Twins) : Prop where
  values : t.throw.values = t.other.values
  instruction : t.token.ServedAlike r s → t.throw.instruction = t.other.instruction

variable {σ : Type} [RandomSource σ]

/-- Tokens thrown twice from the same state of a source agree one after the other, and leave the source
in the same state, whatever their processors make of the values. -/
theorem Thrown.twins {r s : Registry} {tokens : List Token} {source rest left : σ}
    {throws others : List Throw} (thrown : Thrown r tokens source throws rest)
    (again : Thrown s tokens source others left) :
    rest = left ∧ ∃ twins : List Twins, twins.map Twins.token = tokens ∧
      twins.map Twins.throw = throws ∧ twins.map Twins.other = others ∧
      ∀ t ∈ twins, t.Agree r s := by
  induction tokens generalizing source throws others with
  | nil =>
    obtain rfl := List.forall₂_nil_left_iff.mp thrown.each
    obtain rfl := List.forall₂_nil_left_iff.mp again.each
    exact ⟨(thrown.answers.unique again.answers).2, [], rfl, rfl, rfl, by simp⟩
  | cons token tokens ih =>
    obtain ⟨throw, throws, -, -, rfl⟩ := List.forall₂_cons_left_iff.mp thrown.each
    obtain ⟨other, others, -, -, rfl⟩ := List.forall₂_cons_left_iff.mp again.each
    obtain ⟨mid, answers, first, later⟩ := Thrown.cons_iff.mp thrown
    obtain ⟨midAgain, answersAgain, firstAgain, laterAgain⟩ := Thrown.cons_iff.mp again
    -- Both rolls leave the token at one state of the source, so the others begin alike.
    obtain ⟨values, rfl⟩ := answers.unique answersAgain
    obtain ⟨same, twins, rfl, rfl, rfl, agree⟩ := ih later laterAgain
    have firstAgree : Twins.Agree r s ⟨token, throw, other⟩ :=
      ⟨values, first.instruction_eq firstAgain values⟩
    exact ⟨same, ⟨token, throw, other⟩ :: twins, rfl, rfl, rfl,
      List.forall_mem_cons.mpr ⟨firstAgree, agree⟩⟩

/-- Reading asks a registry only which symbols it has. -/
theorem Pipeline.tokens_congr {p q : Pipeline}
    (symbols : ∀ c, c ∈ p.registry.symbols ↔ c ∈ q.registry.symbols) (text : Text) :
    p.tokens text = q.tokens text := by
  have known : p.registry.contains = q.registry.contains := by
    funext c
    rw [Bool.eq_iff_iff, Registry.contains_iff, Registry.contains_iff, symbols c]
  unfold Pipeline.tokens
  rw [known]

/-- Processors interfere neither with the dice nor with each other. Rolled from the same state of a
source by pipelines that differ only in what the symbols of their registries stand for, a text that
comes to two reports has made the same draws. Both reports have the same header, and the same lines
for each token whose processor is the same. -/
theorem processors_do_not_interfere {p q : Pipeline}
    (symbols : ∀ c, c ∈ p.registry.symbols ↔ c ∈ q.registry.symbols)
    (floor : p.nameWidthFloor = q.nameWidthFloor) (label : p.label = q.label) {text : Text}
    {source : σ} {report other : Text} (ran : ((p.roll text).run source).outcome = .ok report)
    (ranOther : ((q.roll text).run source).outcome = .ok other) :
    ((p.roll text).run source).draws = ((q.roll text).run source).draws ∧
    ((p.roll text).run source).source = ((q.roll text).run source).source ∧
    ∃ (twins : List Twins) (header : Text) (width : Int),
      p.tokens text = .ok (twins.map Twins.token) ∧ q.tokens text = .ok (twins.map Twins.token) ∧
      Thrown p.registry (twins.map Twins.token) source (twins.map Twins.throw)
        ((p.roll text).run source).source ∧
      Thrown q.registry (twins.map Twins.token) source (twins.map Twins.other)
        ((q.roll text).run source).source ∧
      (header = "Roll:".toList ∨ header = "Rolls:".toList) ∧
      report = (header :: twins.flatMap fun t =>
        Report.detailLines p.label width t.throw.instruction).flatMap (· ++ ['\n']) ∧
      other = (header :: twins.flatMap fun t =>
        Report.detailLines q.label width t.other.instruction).flatMap (· ++ ['\n']) ∧
      ∀ t ∈ twins, t.throw.values = t.other.values ∧
        (t.token.ServedAlike p.registry q.registry →
          Report.detailLines p.label width t.throw.instruction =
            Report.detailLines q.label width t.other.instruction) := by
  obtain ⟨tokens, throws, read, thrown, draws, rendered⟩ := Pipeline.roll_eq_ok ran
  obtain ⟨tokensOther, others, readOther, thrownOther, drawsOther, renderedOther⟩ :=
    Pipeline.roll_eq_ok ranOther
  have sameTokens : tokens = tokensOther := by
    rw [← Pipeline.tokens_congr symbols, read] at readOther
    injection readOther
  subst sameTokens
  have layout : q.layout tokens = p.layout tokens := by
    unfold Pipeline.layout
    rw [floor]
  obtain ⟨sameRest, twins, rfl, rfl, rfl, agree⟩ := thrown.twins thrownOther
  refine ⟨draws.trans drawsOther.symm, sameRest, twins,
    Report.header (p.layout (twins.map Twins.token)).plural,
    (p.layout (twins.map Twins.token)).nameWidth, read, readOther, thrown, thrownOther,
    Report.header_cases _, ?_, ?_, ?_⟩
  · rw [rendered, List.map_map, Report.render, Report.lines, List.flatMap_map]
    rfl
  · rw [renderedOther, layout, List.map_map, Report.render, Report.lines, List.flatMap_map]
    rfl
  · intro t member
    refine ⟨(agree t member).values, fun alike => ?_⟩
    rw [(agree t member).instruction alike, label]

/-- A pipeline with one more processor, under `!`. -/
def Pipeline.withShout (recipe : Recipe) : Pipeline :=
  ⟨Registry.builtin.insert '!' (recipe.processor (some ⟨1, 0, false, 0⟩) none), 0, ['=']⟩

theorem processors_do_not_interfere_greedy :
    let p : Pipeline := .withShout ⟨.empty, .zero, true⟩
    let q : Pipeline := .withShout ⟨.double, .none, false⟩
    let source : Script := .once [3, 5, 2, 8]
    (∀ c, c ∈ p.registry.symbols ↔ c ∈ q.registry.symbols) ∧
    ((p.roll "2d6!, d4+, d8".toList).run source).outcome =
      .ok ("Rolls:\n- 2d6! :: [  ]\n  =    :: 0\n" ++
        "- 1d4+ :: [ 2 ]\n  =    :: 2\n- 1d8  :: [ 8 ]\n").toList ∧
    ((q.roll "2d6!, d4+, d8".toList).run source).outcome =
      .ok ("Rolls:\n- 2d6! :: [ 3, 5, 3, 5 ]\n" ++
        "- 1d4+ :: [ 2 ]\n  =    :: 2\n- 1d8  :: [ 8 ]\n").toList ∧
    ((p.roll "2d6!, d4+, d8".toList).run source).draws =
      ((q.roll "2d6!, d4+, d8".toList).run source).draws ∧
    ∃ (twins : List Twins) (width : Int),
      twins.map Twins.token = [⟨"2d6!".toList, 2, 6, some '!'⟩, ⟨"1d4+".toList, 1, 4, some '+'⟩,
        ⟨"1d8".toList, 1, 8, none⟩] ∧
      ∀ t ∈ twins, t.token.processor ≠ some '!' →
        Report.detailLines p.label width t.throw.instruction =
          Report.detailLines q.label width t.other.instruction := by
  intro p q source
  have symbols : ∀ c, c ∈ p.registry.symbols ↔ c ∈ q.registry.symbols := fun c => Iff.rfl
  have ran : ((p.roll "2d6!, d4+, d8".toList).run source).outcome =
      .ok ("Rolls:\n- 2d6! :: [  ]\n  =    :: 0\n" ++
        "- 1d4+ :: [ 2 ]\n  =    :: 2\n- 1d8  :: [ 8 ]\n").toList :=
    toOption_eq_some_iff.mp (by decide +kernel)
  have ranOther : ((q.roll "2d6!, d4+, d8".toList).run source).outcome =
      .ok ("Rolls:\n- 2d6! :: [ 3, 5, 3, 5 ]\n" ++
        "- 1d4+ :: [ 2 ]\n  =    :: 2\n- 1d8  :: [ 8 ]\n").toList :=
    toOption_eq_some_iff.mp (by decide +kernel)
  have read : p.tokens "2d6!, d4+, d8".toList = .ok [⟨"2d6!".toList, 2, 6, some '!'⟩,
      ⟨"1d4+".toList, 1, 4, some '+'⟩, ⟨"1d8".toList, 1, 8, none⟩] := by rfl
  obtain ⟨draws, -, twins, -, width, again, -, -, -, -, -, -, agree⟩ :=
    processors_do_not_interfere symbols rfl rfl ran ranOther
  rw [read] at again
  injection again with tokens
  refine ⟨symbols, ran, ranOther, draws, twins, width, tokens.symm, fun t member others => ?_⟩
  refine (agree t member).2 fun symbol named => ?_
  have other : symbol ≠ '!' := fun shout => others (shout ▸ named)
  show (Registry.insert _ _ _).find? symbol = (Registry.insert _ _ _).find? symbol
  rw [Registry.find?_insert, Registry.find?_insert, if_neg other, if_neg other]

end InlineDice
