import InlineDice.Proofs.RollCourse
import InlineDice.Random.Twister
import Mathlib.Data.List.Sort

namespace InlineDice

open Notation

/-- What a report shows of a token, and the values drawn for its dice. -/
structure Account where
  token : Token
  drawn : List Int
  shown : List Int

namespace Account

/-- What is read off a report for an account: the values shown under the name of the token, and their sum
if the token asks for it. -/
def instruction (a : Account) : Instruction :=
  ⟨a.token.name, a.shown, if a.token.processor = some '+' then some a.shown.sum else none⟩

/-- The lines on an account: the values shown, and below them their sum if the token asks for it. -/
def lines (label : Text) (width : Int) (a : Account) : List Text :=
  Report.bulletLine width a.token.name a.shown ::
    if a.token.processor = some '+' then [Report.aggregateLine width label a.shown.sum] else []

theorem detailLines_instruction (label : Text) (width : Int) (a : Account) :
    Report.detailLines label width a.instruction = a.lines label width := by
  unfold Report.detailLines lines instruction
  split <;> rfl

/-- An account shows as many values as its token has dice, all on their faces, and these are the
values drawn, in the order that the processor stands for. -/
structure IsTrue (a : Account) : Prop where
  length : a.shown.length = a.token.count
  faces : ∀ v ∈ a.shown, 1 ≤ v ∧ v ≤ (a.token.faces : Int)
  perm : a.shown.Perm a.drawn
  known : ∀ c ∈ a.token.processor, c = '<' ∨ c = '>' ∨ c = '+'
  ascending : a.token.processor = some '<' → a.shown.Pairwise (· ≤ ·)
  descending : a.token.processor = some '>' → a.shown.Pairwise (· ≥ ·)
  kept : a.token.processor = some '+' ∨ a.token.processor = none → a.shown = a.drawn
  sum : (a.token.count : Int) ≤ a.shown.sum ∧ a.shown.sum ≤ a.token.count * a.token.faces

end Account

namespace Notation.Token.Throws

variable {token : Token} {throw : Throw}

/-- A built-in processor computes what an instruction shows from the values drawn for it. -/
theorem result_eq (throws : token.Throws .builtin throw) {symbol : Char}
    (named : token.processor = some symbol) {doc : String} {f : List Int → ProcessedRolls}
    (held : Registry.builtin.find? symbol = some (.ofFunction doc f)) :
    throw.instruction.result = f throw.values := by
  obtain ⟨processor, worked, found, works⟩ := throws.processed symbol named
  have same : processor = .ofFunction doc f := Option.some.inj (found.symm.trans held)
  subst same
  injection works with answers
  injection answers with answer
  exact answer.symm

theorem result_ascending (throws : token.Throws .builtin throw)
    (named : token.processor = some '<') :
    throw.instruction.result = ⟨throw.values.mergeSort (· ≤ ·), none⟩ :=
  throws.result_eq named (f := fun rolls => ⟨rolls.mergeSort (· ≤ ·), none⟩) rfl

theorem result_descending (throws : token.Throws .builtin throw)
    (named : token.processor = some '>') :
    throw.instruction.result = ⟨throw.values.mergeSort (· ≥ ·), none⟩ :=
  throws.result_eq named (f := fun rolls => ⟨rolls.mergeSort (· ≥ ·), none⟩) rfl

theorem result_total (throws : token.Throws .builtin throw)
    (named : token.processor = some '+') :
    throw.instruction.result = ⟨throw.values, some throw.values.sum⟩ := by
  rw [List.sum_eq_foldl]
  exact throws.result_eq named (f := fun rolls => ⟨rolls, some (rolls.foldl (· + ·) 0)⟩) rfl

end Notation.Token.Throws

namespace Account

/-- The account of a throw: the values drawn, and the rolls its instruction shows. -/
def ofThrow (token : Token) (throw : Throw) : Account :=
  ⟨token, throw.values, throw.instruction.result.rolls⟩

variable {token : Token} {throw : Throw}

theorem ofThrow_perm (throws : token.Throws .builtin throw)
    (known : ∀ c ∈ token.processor, Registry.builtin.contains c = true) :
    throw.instruction.result.rolls.Perm throw.values := by
  cases named : token.processor with
  | none => rw [throws.unprocessed named]
  | some symbol =>
    rcases builtin_contains_iff.mp (known symbol named) with rfl | rfl | rfl
    · rw [throws.result_ascending named]
      exact List.mergeSort_perm _ _
    · rw [throws.result_descending named]
      exact List.mergeSort_perm _ _
    · rw [throws.result_total named]

/-- With the built-in processors the account of a throw on the faces of its dice is true. -/
theorem ofThrow_isTrue (throws : token.Throws .builtin throw)
    (known : ∀ c ∈ token.processor, Registry.builtin.contains c = true)
    (faces : ∀ v ∈ throw.values, 1 ≤ v ∧ v ≤ (token.faces : Int)) :
    (ofThrow token throw).IsTrue := by
  have perm := ofThrow_perm throws known
  have length : throw.instruction.result.rolls.length = token.count :=
    perm.length_eq.trans throws.length
  have shown : ∀ v ∈ throw.instruction.result.rolls, 1 ≤ v ∧ v ≤ (token.faces : Int) :=
    fun v member => faces v (perm.mem_iff.mp member)
  have bounds := sum_bounds shown 0
  rw [← List.sum_eq_foldl, length, Int.zero_add, Int.zero_add] at bounds
  refine ⟨length, shown, perm, fun c member => builtin_contains_iff.mp (known c member),
    ?ascending, ?descending, ?kept, bounds⟩
  case ascending =>
    intro named
    simp only [ofThrow, throws.result_ascending named]
    exact List.pairwise_mergeSort' (· ≤ ·) throw.values
  case descending =>
    intro named
    simp only [ofThrow, throws.result_descending named]
    exact List.pairwise_mergeSort' (· ≥ ·) throw.values
  case kept =>
    rintro (named | named)
    · simp only [ofThrow, throws.result_total named]
    · simp only [ofThrow, throws.unprocessed named]

theorem ofThrow_aggregate (throws : token.Throws .builtin throw)
    (known : ∀ c ∈ token.processor, Registry.builtin.contains c = true) :
    throw.instruction.result.aggregate =
      if token.processor = some '+' then some throw.instruction.result.rolls.sum else none := by
  cases named : token.processor with
  | none => simp [throws.unprocessed named]
  | some symbol =>
    rcases builtin_contains_iff.mp (known symbol named) with rfl | rfl | rfl
    · simp [throws.result_ascending named]
    · simp [throws.result_descending named]
    · simp [throws.result_total named]

/-- With the built-in processors an instruction is that of its account. -/
theorem instruction_ofThrow (throws : token.Throws .builtin throw)
    (known : ∀ c ∈ token.processor, Registry.builtin.contains c = true) :
    (ofThrow token throw).instruction = throw.instruction := by
  unfold Account.instruction ofThrow
  rw [← ofThrow_aggregate throws known, ← throws.name]

end Account

/-- The dice of tokens that were thrown, accounted for one token after the other. -/
theorem Thrown.accounts {σ : Type} [RandomSource σ] {tokens : List Token} {source rest : σ}
    {throws : List Throw} (thrown : Thrown .builtin tokens source throws rest)
    (sound : ∀ token ∈ tokens, token.IsSound Registry.builtin.contains)
    (bounded : KeepsBounds source) :
    ∃ accounts : List Account, accounts.map Account.token = tokens ∧
      accounts.map Account.drawn = throws.map Throw.values ∧ (∀ a ∈ accounts, a.IsTrue) ∧
      accounts.map Account.instruction = throws.map Throw.instruction := by
  have each := thrown.faces bounded fun token member => (sound token member).one_le_faces
  clear thrown
  induction each with
  | nil => exact ⟨[], rfl, rfl, by simp, rfl⟩
  | @cons token throw tokens throws first _ ih =>
    obtain ⟨soundFirst, soundRest⟩ := List.forall_mem_cons.mp sound
    obtain ⟨accounts, rfl, drawn, allTrue, shown⟩ := ih soundRest
    refine ⟨.ofThrow token throw :: accounts, rfl, by simp [Account.ofThrow, drawn], ?_, ?_⟩
    · exact List.forall_mem_cons.mpr
        ⟨Account.ofThrow_isTrue first.1 soundFirst.known_processor first.2, allTrue⟩
    · rw [List.map_cons, List.map_cons, shown,
        Account.instruction_ofThrow first.1 soundFirst.known_processor]

theorem length_le_dice {tokens : List Token} (dice : ∀ token ∈ tokens, 1 ≤ token.count)
    (start : Int) :
    start + tokens.length ≤ tokens.foldl (fun total token => total + (token.count : Int)) start := by
  induction tokens generalizing start with
  | nil => simp
  | cons token tokens ih =>
    obtain ⟨first, later⟩ := List.forall_mem_cons.mp dice
    have rest := ih later (start + token.count)
    simp only [List.length_cons, List.foldl_cons, Nat.cast_add, Nat.cast_one]
    omega

/-- More than one die is rolled unless there is only one token and it has one die. -/
theorem Pipeline.layout_plural_eq_false_iff (p : Pipeline) {tokens : List Token}
    (nonempty : tokens ≠ []) (dice : ∀ token ∈ tokens, 1 ≤ token.count) :
    (p.layout tokens).plural = false ↔ ∃ token, tokens = [token] ∧ token.count = 1 := by
  have total : (p.layout tokens).plural = false ↔
      tokens.foldl (fun total token => total + (token.count : Int)) 0 ≤ 1 := by
    simp [Pipeline.layout, Layout.of, List.foldl_map]
  have most := length_le_dice dice 0
  rw [total]
  rcases tokens with - | ⟨token, - | ⟨next, rest⟩⟩
  · contradiction
  · have first := dice token (List.mem_singleton_self token)
    simp only [List.foldl_cons, List.foldl_nil, List.cons.injEq, and_true, exists_eq_left']
    omega
  · simp only [List.length_cons, Nat.cast_add, Nat.cast_one] at most
    simp only [List.cons.injEq, reduceCtorEq, and_false, false_and, exists_false, iff_false]
    omega

/-- A report tells the truth about the dice. Under a header that tells one die from more, it has for
each token of the text, in order, a line of the values drawn for it, arranged as the processor of the
token stands for, and exactly for `+` a line of their sum. Whoever reads the report back finds the same. -/
theorem report_true_to_dice {σ : Type} [RandomSource σ] {p : Pipeline}
    (builtin : p.registry = .builtin) {text : Text} {source : σ} (bounded : KeepsBounds source)
    {report : Text} (ran : ((p.roll text).run source).outcome = .ok report) :
    ∃ (accounts : List Account) (header : Text),
      p.tokens text = .ok (accounts.map Account.token) ∧
      ((p.roll text).run source).draws = (accounts.map Account.token).flatMap Token.draws ∧
      Answers source ((p.roll text).run source).draws (accounts.flatMap Account.drawn)
        ((p.roll text).run source).source ∧
      (∀ a ∈ accounts, a.IsTrue) ∧
      report = (header :: accounts.flatMap (Account.lines p.label
        (p.layout (accounts.map Account.token)).nameWidth)).flatMap (· ++ ['\n']) ∧
      ((∃ a, accounts = [a] ∧ a.token.count = 1) → header = "Roll:".toList) ∧
      (¬(∃ a, accounts = [a] ∧ a.token.count = 1) → header = "Rolls:".toList) ∧
      ('\n' ∉ p.label → ∃ plural,
        Report.read report = (plural, accounts.map Account.instruction) ∧
        (plural = false ↔ ∃ a, accounts = [a] ∧ a.token.count = 1)) := by
  obtain ⟨tokens, throws, read, thrown, draws, rendered⟩ := Pipeline.roll_eq_ok ran
  have sound := Pipeline.isSound_of_tokens read
  have nonempty := (Pipeline.tokens_eq_ok_iff.mp read).2
  have answers := thrown.answers
  have readBack : '\n' ∉ p.label → Report.read report =
      ((p.layout tokens).plural, throws.map Throw.instruction) := by
    intro wholeLabel
    rw [rendered]
    exact Report.read_render wholeLabel (Pipeline.isName_of_thrown read thrown)
  rw [builtin] at sound thrown
  obtain ⟨accounts, rfl, drawn, allTrue, shown⟩ := thrown.accounts sound bounded
  have plural := p.layout_plural_eq_false_iff nonempty fun token member =>
    (sound token member).one_le_count
  have single : (∃ token, accounts.map Account.token = [token] ∧ token.count = 1) ↔
      ∃ a, accounts = [a] ∧ a.token.count = 1 := by
    simp only [List.map_eq_singleton_iff]
    constructor
    · rintro ⟨_, ⟨a, rfl, rfl⟩, one⟩
      exact ⟨a, rfl, one⟩
    · rintro ⟨a, rfl, one⟩
      exact ⟨_, ⟨a, rfl, rfl⟩, one⟩
  rw [single] at plural
  have inOrder : accounts.flatMap Account.drawn = throws.flatMap Throw.values := by
    rw [List.flatMap_def, drawn, ← List.flatMap_def]
  refine ⟨accounts, Report.header (p.layout (accounts.map Account.token)).plural, read, draws, ?_,
    allTrue, ?_, ?_, ?_, ?_⟩
  · rw [draws, inOrder]
    exact answers
  · rw [rendered, Report.render, Report.lines, ← shown, List.flatMap_map]
    simp only [Account.detailLines_instruction]
  · intro one
    rw [plural.mpr one]
    rfl
  · intro more
    rw [Bool.eq_true_of_not_eq_false (mt plural.mp more)]
    rfl
  · intro wholeLabel
    exact ⟨_, by rw [shown, readBack wholeLabel], plural⟩

theorem report_true_to_dice_seeded :
    KeepsBounds (Twister.ofSeed 7) ∧
    ∃ report, ((Pipeline.default.roll "3d6>, d4, 2d8+".toList).run (Twister.ofSeed 7)).outcome =
        .ok report ∧
      ∃ accounts : List Account, accounts.map (fun a => a.token.name) =
          ["3d6>".toList, "1d4".toList, "2d8+".toList] ∧
        (∀ a ∈ accounts, a.IsTrue) ∧
        report = ("Rolls:".toList :: accounts.flatMap (Account.lines ['Σ'] 4)).flatMap
          (· ++ ['\n']) ∧
        Report.read report = (true, accounts.map Account.instruction) := by
  have bounded := Twister.honest.keepsBounds (Twister.ofSeed 7)
  have read : Pipeline.default.tokens "3d6>, d4, 2d8+".toList =
      .ok [⟨"3d6>".toList, 3, 6, some '>'⟩, ⟨"1d4".toList, 1, 4, none⟩,
        ⟨"2d8+".toList, 2, 8, some '+'⟩] := by rfl
  obtain ⟨instructions, rest, -, ran⟩ :=
    Pipeline.roll_of_read Twister.honest rfl read (Twister.ofSeed 7)
  have written := congrArg Played.outcome ran
  obtain ⟨accounts, header, again, -, -, allTrue, report, -, more, readBack⟩ :=
    report_true_to_dice rfl bounded written
  rw [read] at again
  injection again with tokens
  have names : accounts.map (fun a => a.token.name) =
      ["3d6>".toList, "1d4".toList, "2d8+".toList] := by
    rw [← Function.comp_def Token.name, ← List.map_map, ← tokens]
    rfl
  have several : ¬∃ a, accounts = [a] ∧ a.token.count = 1 := by
    rintro ⟨a, rfl, -⟩
    simp at tokens
  rw [← tokens, more several] at report
  obtain ⟨plural, shown, single⟩ := readBack (by decide)
  rw [Bool.eq_true_of_not_eq_false (mt single.mp several)] at shown
  exact ⟨bounded, _, written, accounts, names, allTrue, report, shown⟩

end InlineDice
