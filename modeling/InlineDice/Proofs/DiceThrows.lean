import InlineDice.Pipeline
import InlineDice.Proofs.TokenParsing

namespace InlineDice

open Notation

section

variable {σ : Type} [RandomSource σ]

/-- A source answers draws made in a row, each from where the one before it left the source. -/
inductive Answers : σ → List Draw → List Int → σ → Prop
  | nil (source : σ) : Answers source [] [] source
  | cons {source mid rest : σ} {draw : Draw} {value : Int} {draws : List Draw}
      {values : List Int} :
      RandomSource.draw draw.low draw.high source = (some value, mid) →
      Answers mid draws values rest → Answers source (draw :: draws) (value :: values) rest

theorem Answers.append {source mid rest : σ} {draws more : List Draw} {values further : List Int}
    (first : Answers source draws values mid) (later : Answers mid more further rest) :
    Answers source (draws ++ more) (values ++ further) rest := by
  induction first with
  | nil => exact later
  | cons drawn _ ih => exact .cons drawn (ih later)

theorem Answers.length_eq {source rest : σ} {draws : List Draw} {values : List Int}
    (answers : Answers source draws values rest) : values.length = draws.length := by
  induction answers with
  | nil => rfl
  | cons _ _ ih => rw [List.length_cons, List.length_cons, ih]

/-- The draws and the state of a source decide its answers and where they leave it. -/
theorem Answers.unique {source rest left : σ} {draws : List Draw} {values others : List Int}
    (answers : Answers source draws values rest) (again : Answers source draws others left) :
    values = others ∧ rest = left := by
  induction answers generalizing others with
  | nil =>
    cases again
    exact ⟨rfl, rfl⟩
  | cons drawn _ ih =>
    cases again with
    | cons drawnAgain later =>
      rw [drawn] at drawnAgain
      injection drawnAgain with value mid
      injection value with value
      subst value mid
      obtain ⟨rfl, same⟩ := ih later
      exact ⟨rfl, same⟩

theorem answers_append_iff {source rest : σ} {draws more : List Draw} {values further : List Int}
    (length : values.length = draws.length) :
    Answers source (draws ++ more) (values ++ further) rest ↔
      ∃ mid, Answers source draws values mid ∧ Answers mid more further rest := by
  constructor
  · intro answers
    induction draws generalizing source values with
    | nil =>
      have none : values = [] := List.eq_nil_of_length_eq_zero length
      subst none
      exact ⟨source, .nil source, answers⟩
    | cons draw draws ih =>
      obtain ⟨value, values, rfl⟩ := List.exists_cons_of_length_eq_add_one length
      cases answers with
      | cons drawn later =>
        obtain ⟨mid, first, second⟩ := ih (Nat.succ.inj length) later
        exact ⟨mid, .cons drawn first, second⟩
  · rintro ⟨mid, first, later⟩
    exact first.append later

/-- Asked for draws in a row, a source answers them all or runs dry at one of them. -/
theorem answers_or_dry (draws : List Draw) (source : σ) :
    (∃ values rest, Answers source draws values rest) ∨
      ∃ made draw later values mid rest, draws = made ++ draw :: later ∧
        Answers source made values mid ∧
        RandomSource.draw draw.low draw.high mid = (none, rest) := by
  induction draws generalizing source with
  | nil => exact .inl ⟨[], source, .nil source⟩
  | cons draw draws ih =>
    rcases drawn : RandomSource.draw draw.low draw.high source with ⟨_ | value, next⟩
    · exact .inr ⟨[], draw, draws, [], source, next, rfl, .nil source, drawn⟩
    · rcases ih next with ⟨values, rest, answers⟩ |
        ⟨made, last, later, values, mid, rest, rfl, answers, dry⟩
      · exact .inl ⟨value :: values, rest, .cons drawn answers⟩
      · exact .inr ⟨draw :: made, last, later, value :: values, mid, rest, rfl,
          .cons drawn answers, dry⟩

theorem draw_of_some {low high value : Int} {source rest : σ}
    (drawn : RandomSource.draw low high source = (some value, rest)) :
    (Play.draw low high).run source = ⟨.ok value, rest, [⟨low, high⟩], []⟩ := by
  simp only [Play.run, Play.draw, drawn]

theorem draw_of_none {low high : Int} {source rest : σ}
    (dry : RandomSource.draw low high source = (none, rest)) :
    (Play.draw low high).run source = ⟨.error .sourceExhausted, rest, [⟨low, high⟩], []⟩ := by
  simp only [Play.run, Play.draw, dry]

theorem rollDice_of_answers {faces : Int} {n : Nat} {source rest : σ} {values : List Int}
    (answers : Answers source (List.replicate n ⟨1, faces⟩) values rest) :
    (rollDice faces n).run source = ⟨.ok values, rest, List.replicate n ⟨1, faces⟩, []⟩ := by
  induction n generalizing source values with
  | zero =>
    cases answers
    rfl
  | succ n ih =>
    rw [List.replicate_succ] at answers
    cases answers with
    | cons drawn later =>
      rw [rollDice, Play.run_bind_of_run (draw_of_some drawn), Play.run_map_of_run (ih later)]
      rfl

theorem rollDice_of_dry {faces : Int} {made n : Nat} (few : made < n) {source mid rest : σ}
    {values : List Int} (answers : Answers source (List.replicate made ⟨1, faces⟩) values mid)
    (dry : RandomSource.draw 1 faces mid = (none, rest)) :
    (rollDice faces n).run source =
      ⟨.error .sourceExhausted, rest, List.replicate (made + 1) ⟨1, faces⟩, []⟩ := by
  induction made generalizing source values n with
  | zero =>
    obtain ⟨n, rfl⟩ := Nat.exists_eq_succ_of_ne_zero (Nat.ne_of_gt few)
    cases answers
    have stops := draw_of_none dry
    rw [rollDice, Play.run_bind_of_error (by rw [stops]), stops]
    rfl
  | succ made ih =>
    obtain ⟨n, rfl⟩ := Nat.exists_eq_succ_of_ne_zero (Nat.ne_of_gt (Nat.zero_lt_of_lt few))
    rw [List.replicate_succ] at answers
    cases answers with
    | cons drawn later =>
      have stops := ih (Nat.lt_of_succ_lt_succ few) later
      rw [rollDice, Play.run_bind_of_run (draw_of_some drawn), Play.run_map_of_failed stops]
      rfl

end

/-- The values drawn for the dice of a token, in order, and the instruction that they come to. -/
structure Throw where
  values : List Int
  instruction : Instruction

namespace Notation

/-- The draws that the dice of a token take. -/
def Token.draws (token : Token) : List Draw := List.replicate token.count ⟨1, token.faces⟩

/-- A throw of the dice of a token: one value for each, and the processor of the token, called with
these values, answers what the instruction shows. -/
structure Token.Throws (r : Registry) (token : Token) (throw : Throw) : Prop where
  length : throw.values.length = token.count
  name : throw.instruction.name = token.name
  unprocessed : token.processor = none → throw.instruction.result = ⟨throw.values, none⟩
  processed : ∀ symbol ∈ token.processor, ∃ processor worked, r.find? symbol = some processor ∧
    processor.call throw.values = .ok ⟨throw.instruction.result, worked⟩

/-- How the dice of a token end a roll: the source runs dry before it has answered for all of them, or
the processor fails on their values. -/
inductive Token.Fails {σ : Type} [RandomSource σ] (r : Registry) (token : Token) (source : σ) :
    Fault → List Draw → σ → Prop
  | dry {made : Nat} {values : List Int} {mid rest : σ} (few : made < token.count)
      (answers : Answers source (List.replicate made ⟨1, token.faces⟩) values mid)
      (dry : RandomSource.draw 1 token.faces mid = (none, rest)) :
      token.Fails r source .sourceExhausted (List.replicate (made + 1) ⟨1, token.faces⟩) rest
  | processor {values : List Int} {rest : σ} {symbol : Char} {processor : Processor} {fault : Fault}
      (answers : Answers source token.draws values rest) (named : token.processor = some symbol)
      (held : r.find? symbol = some processor) (fails : processor.call values = .error fault) :
      token.Fails r source fault token.draws rest

end Notation

/-- Tokens are thrown in order: all their draws are answered, and the answers go to them one after the
other, to each as many as it has dice. -/
structure Thrown {σ : Type} [RandomSource σ] (r : Registry) (tokens : List Token) (source : σ)
    (throws : List Throw) (rest : σ) : Prop where
  answers : Answers source (tokens.flatMap Token.draws) (throws.flatMap Throw.values) rest
  each : List.Forall₂ (Token.Throws r) tokens throws

namespace Thrown

variable {σ : Type} [RandomSource σ] {r : Registry} {token : Token} {tokens : List Token}
  {throw : Throw} {throws : List Throw} {source rest : σ}

theorem nil (r : Registry) (source : σ) : Thrown r [] source [] source := ⟨.nil source, .nil⟩

/-- Tokens are thrown one after the other, each from where the one before it left the source. -/
theorem cons_iff :
    Thrown r (token :: tokens) source (throw :: throws) rest ↔
      ∃ mid, Answers source token.draws throw.values mid ∧ token.Throws r throw ∧
        Thrown r tokens mid throws rest := by
  constructor
  · rintro ⟨answers, each⟩
    obtain ⟨first, later⟩ := List.forall₂_cons.mp each
    have length : throw.values.length = token.draws.length := by
      rw [first.length, Token.draws, List.length_replicate]
    obtain ⟨mid, answersFirst, answersLater⟩ := (answers_append_iff length).mp answers
    exact ⟨mid, answersFirst, first, answersLater, later⟩
  · rintro ⟨mid, answers, first, later⟩
    exact ⟨answers.append later.answers, .cons first later.each⟩

theorem names (thrown : Thrown r tokens source throws rest) :
    throws.map (fun throw => throw.instruction.name) = tokens.map Token.name := by
  have same : List.Forall₂ (fun throw token => throw.instruction.name = token.name) throws tokens :=
    thrown.each.flip.imp fun _ _ throws => throws.name
  rw [← List.forall₂_eq_eq_eq, List.forall₂_map_left_iff, List.forall₂_map_right_iff]
  exact same

end Thrown

namespace Registry

theorem apply_of_call {r : Registry} {symbol : Char} {processor : Processor}
    (held : r.find? symbol = some processor) (values : List Int) :
    r.apply (some (.text [symbol])) values =
      (processor.call values).map fun reply => ⟨reply.answer, values⟩ := by
  have found : r.processor (.text [symbol]) = .ok processor := by
    simp only [Registry.processor, lookup, held]
    rfl
  simp only [Registry.apply, found, bind, Except.bind]
  cases processor.call values <;> rfl

end Registry

theorem Notation.Token.Throws.applied {r : Registry} {token : Token} {throw : Throw}
    (throws : token.Throws r throw) :
    r.apply (token.processor.map fun symbol => .text [symbol]) throw.values =
      .ok ⟨throw.instruction.result, throw.values⟩ := by
  cases named : token.processor with
  | none =>
    rw [throws.unprocessed named]
    rfl
  | some symbol =>
    obtain ⟨processor, worked, held, works⟩ := throws.processed symbol named
    rw [Option.map_some, Registry.apply_of_call held, works]
    rfl

namespace Pipeline

variable {σ : Type} [RandomSource σ] {p : Pipeline} {token : Token} {source : σ}

/-- The checks of rolling itself pass for every token that was read. -/
theorem roll_of_isSound (sound : token.IsSound p.registry.contains) :
    (InlineDice.roll token.count token.faces : Play σ (List Int)) =
      rollDice token.faces token.count := by
  have dice := sound.one_le_count
  have faces := sound.one_le_faces
  rw [InlineDice.roll, if_neg (by omega), if_neg (by omega), Int.toNat_natCast]

theorem rollToken_of_throws (sound : token.IsSound p.registry.contains) {throw : Throw} {rest : σ}
    (answers : Answers source token.draws throw.values rest)
    (throws : token.Throws p.registry throw) :
    (p.rollToken token).run source = ⟨.ok throw.instruction, rest, token.draws, []⟩ := by
  rw [rollToken, roll_of_isSound sound, Play.run_bind_of_run (rollDice_of_answers answers),
    throws.applied, Play.run_bind_of_run (Play.run_ofExcept _ rest), ← throws.name]
  simp [Play.run_pure, Played.followedBy, Token.draws]

theorem rollToken_of_fails (sound : token.IsSound p.registry.contains) {fault : Fault}
    {own : List Draw} {rest : σ} (fails : token.Fails p.registry source fault own rest) :
    (p.rollToken token).run source = ⟨.error fault, rest, own, []⟩ := by
  rw [rollToken, roll_of_isSound sound]
  cases fails with
  | dry few answers dry =>
    have stops := rollDice_of_dry few answers dry
    rw [Play.run_bind_of_error (by rw [stops]), stops]
    rfl
  | processor answers named held fails =>
    rw [Play.run_bind_of_run (rollDice_of_answers answers), named, Option.map_some,
      Registry.apply_of_call held, fails, Play.run_bind_of_error (by rfl)]
    simp [Played.followedBy, Played.endedBy, Play.run_ofExcept, Token.draws]

/-- The source and the processors decide between the two ways in which rolling a token ends. -/
theorem throws_or_fails (sound : token.IsSound p.registry.contains) (source : σ) :
    (∃ throw rest, Answers source token.draws throw.values rest ∧ token.Throws p.registry throw) ∨
      ∃ fault own rest, token.Fails p.registry source fault own rest := by
  rcases answers_or_dry token.draws source with ⟨values, rest, answers⟩ |
    ⟨made, draw, later, values, mid, rest, split, answers, dry⟩
  · have length : values.length = token.count := by
      rw [answers.length_eq, Token.draws, List.length_replicate]
    cases named : token.processor with
    | none =>
      exact .inl ⟨⟨values, token.name, values, none⟩, rest, answers, length, rfl, fun _ => rfl,
        by simp [named]⟩
    | some symbol =>
      obtain ⟨processor, held⟩ := Option.isSome_iff_exists.mp (sound.known_processor symbol named)
      cases works : processor.call values with
      | error fault =>
        exact .inr ⟨_, _, rest, .processor answers named held works⟩
      | ok reply =>
        refine .inl ⟨⟨values, token.name, reply.answer⟩, rest, answers, length, rfl, by simp [named], ?_⟩
        intro other same
        rw [named] at same
        cases same
        exact ⟨processor, reply.worked, held, works⟩
  · -- All draws of a token are alike, so the source has run dry on one more of them.
    obtain ⟨length, alike, last⟩ := List.replicate_eq_append_iff.mp split
    have same : draw = ⟨1, token.faces⟩ :=
      List.eq_of_mem_replicate (last ▸ List.mem_cons_self .. : draw ∈ List.replicate _ _)
    have few : made.length < token.count := by
      rw [List.length_cons] at length
      omega
    subst same
    rw [alike] at answers
    exact .inr ⟨_, _, rest, .dry few answers dry⟩

section

variable {tokens : List Token} {throws : List Throw} {rest : σ}

theorem rollTokens_of_thrown (sound : ∀ token ∈ tokens, token.IsSound p.registry.contains)
    (thrown : Thrown p.registry tokens source throws rest) :
    (p.rollTokens tokens).run source =
      ⟨.ok (throws.map Throw.instruction), rest, tokens.flatMap Token.draws, []⟩ := by
  induction tokens generalizing source throws with
  | nil =>
    obtain ⟨answers, each⟩ := thrown
    cases each
    cases answers
    rfl
  | cons token tokens ih =>
    obtain ⟨soundFirst, soundRest⟩ := List.forall_mem_cons.mp sound
    obtain ⟨throw, more, -, -, rfl⟩ := List.forall₂_cons_left_iff.mp thrown.each
    obtain ⟨mid, answers, first, later⟩ := Thrown.cons_iff.mp thrown
    rw [rollTokens, Play.run_bind_of_run (rollToken_of_throws soundFirst answers first),
      Play.run_map_of_run (ih soundRest later)]
    simp [Played.followedBy]

/-- A token that fails ends the roll after those before it have been thrown. -/
theorem rollTokens_of_fails {done later : List Token} {token : Token} {mid : σ} {fault : Fault}
    {own : List Draw} (sound : ∀ t ∈ done ++ token :: later, t.IsSound p.registry.contains)
    (thrown : Thrown p.registry done source throws mid)
    (fails : token.Fails p.registry mid fault own rest) :
    (p.rollTokens (done ++ token :: later)).run source =
      ⟨.error fault, rest, done.flatMap Token.draws ++ own, []⟩ := by
  induction done generalizing source throws with
  | nil =>
    obtain ⟨answers, each⟩ := thrown
    cases each
    cases answers
    have stops := rollToken_of_fails (sound token (List.mem_cons_self ..)) fails
    rw [List.nil_append, rollTokens, Play.run_bind_of_error (by rw [stops]), stops]
    rfl
  | cons first done ih =>
    obtain ⟨soundFirst, soundRest⟩ := List.forall_mem_cons.mp sound
    obtain ⟨throw, more, -, -, rfl⟩ := List.forall₂_cons_left_iff.mp thrown.each
    obtain ⟨next, answers, throws, others⟩ := Thrown.cons_iff.mp thrown
    rw [List.cons_append, rollTokens, Play.run_bind_of_run (rollToken_of_throws soundFirst answers throws),
      Play.run_map_of_failed (ih soundRest others)]
    simp [Played.followedBy]

/-- Tokens that were read are all thrown, or one of them fails after those before it. -/
theorem thrown_or_stopped (sound : ∀ token ∈ tokens, token.IsSound p.registry.contains)
    (source : σ) :
    (∃ throws rest, Thrown p.registry tokens source throws rest) ∨
      ∃ done token later throws mid fault own rest, tokens = done ++ token :: later ∧
        Thrown p.registry done source throws mid ∧
        token.Fails p.registry mid fault own (rest : σ) := by
  induction tokens generalizing source with
  | nil => exact .inl ⟨[], source, .nil _ source⟩
  | cons token tokens ih =>
    obtain ⟨soundFirst, soundRest⟩ := List.forall_mem_cons.mp sound
    rcases throws_or_fails soundFirst source with ⟨throw, next, answers, throws⟩ |
      ⟨fault, own, rest, fails⟩
    · rcases ih soundRest next with ⟨more, rest, thrown⟩ |
        ⟨done, last, later, more, mid, fault, own, rest, rfl, thrown, fails⟩
      · exact .inl ⟨throw :: more, rest, Thrown.cons_iff.mpr ⟨next, answers, throws, thrown⟩⟩
      · exact .inr ⟨token :: done, last, later, throw :: more, mid, fault, own, rest, rfl,
          Thrown.cons_iff.mpr ⟨next, answers, throws, thrown⟩, fails⟩
    · exact .inr ⟨[], token, tokens, [], source, fault, own, rest, rfl, .nil _ source, fails⟩

end

end Pipeline

end InlineDice
