import InlineDice.Proofs.DiceLines
import InlineDice.Proofs.HonestRolls
import InlineDice.Proofs.ReportWidths

namespace InlineDice

open Notation

theorem Notation.Token.RolledAs.isWritable {token : Token} {i : Instruction}
    (sound : token.IsSound Registry.builtin.contains) (rolled : token.RolledAs i) :
    i.IsWritable := by
  obtain ⟨-, rolls, length, bounds, applied⟩ := rolled
  obtain ⟨result, same, perm, total⟩ := builtin_apply sound.known_processor rolls
  rw [same] at applied
  have result_eq : result = i.result := by
    injection applied with applied
    injection applied
  subst result_eq
  have room : maxDice * maxFaces < Nat.pow 10 numeralLimit := by
    rw [Nat.pow_eq]
    refine Nat.lt_trans ?_ (Nat.pow_lt_pow_right (by decide) (by decide : 10 < numeralLimit))
    decide
  have faceRoom : maxFaces < Nat.pow 10 numeralLimit :=
    (by decide : maxFaces ≤ maxDice * maxFaces).trans_lt room
  have facesHigh := sound.faces_le
  constructor
  · rw [List.all_eq_true]
    intro v member
    have bound := bounds v (perm.mem_iff.mp member)
    simp only [Integer.isWritable, decide_eq_true_eq]
    omega
  · rw [Option.all_eq_true]
    intro sum member
    rw [total sum member]
    have sums := sum_bounds bounds 0
    have most : (rolls.length : Int) * token.faces ≤ (maxDice * maxFaces : Nat) := by
      rw [length]
      exact_mod_cast Nat.mul_le_mul sound.count_le sound.faces_le
    simp only [Integer.isWritable, decide_eq_true_eq]
    omega

namespace Pipeline

variable {σ : Type} [RandomSource σ] {p : Pipeline} {text : Text}

theorem tokens_eq_ok_iff {tokens : List Token} :
    p.tokens text = .ok tokens ↔
      (tokenize text).mapM (Token.parse p.registry.contains) = .ok tokens ∧ tokens ≠ [] := by
  unfold Pipeline.tokens
  rw [except_bind_eq_ok_iff]
  constructor
  · rintro ⟨read, parsed, checked⟩
    by_cases empty : read = []
    · simp [empty, bind, Except.bind, throw, throwThe, MonadExceptOf.throw] at checked
    · simp only [empty, if_false, bind, Except.bind, pure, Except.pure, Except.ok.injEq] at checked
      exact checked ▸ ⟨parsed, empty⟩
  · rintro ⟨parsed, nonempty⟩
    exact ⟨tokens, parsed, by simp [nonempty, pure, Except.pure]⟩

/-- A text without tokens fails as a whole, any other one by its first bad token. -/
theorem tokens_eq_error_iff {fault : Fault} :
    p.tokens text = .error fault ↔
      (tokenize text).mapM (Token.parse p.registry.contains) = .error fault ∨
        tokenize text = [] ∧ fault = .malformedLine text := by
  unfold Pipeline.tokens
  rw [except_bind_eq_error_iff]
  refine or_congr_right ?_
  constructor
  · rintro ⟨read, parsed, checked⟩
    by_cases empty : read = []
    · subst empty
      have all := mapM_eq_ok_iff.mp parsed
      have none : tokenize text = [] := List.forall₂_nil_right_iff.mp all
      simp only [if_true, bind, Except.bind, throw, throwThe, MonadExceptOf.throw,
        Except.error.injEq] at checked
      exact ⟨none, checked.symm⟩
    · simp [empty, pure, Except.pure] at checked
  · rintro ⟨none, rfl⟩
    rw [none]
    exact ⟨[], rfl, by simp [bind, Except.bind, throw, throwThe, MonadExceptOf.throw]⟩

theorem isSound_of_tokens {tokens : List Token} (read : p.tokens text = .ok tokens) :
    ∀ token ∈ tokens, token.IsSound p.registry.contains := by
  intro token member
  obtain ⟨parsed, -⟩ := tokens_eq_ok_iff.mp read
  obtain ⟨t, -, parsedFrom⟩ := forall₂_exists_left (mapM_eq_ok_iff.mp parsed) token member
  exact Token.isSound_of_parse parsedFrom

/-- The floor of the column of names is no width that can be asked for, so no report is ever written. -/
def IsTooWide (p : Pipeline) : Prop := Report.widthLimit ≤ p.nameWidthFloor

instance (p : Pipeline) : Decidable p.IsTooWide := inferInstanceAs (Decidable (_ ≤ _))

theorem nameWidth_spec (p : Pipeline) (tokens : List Token) :
    p.nameWidthFloor ≤ (p.layout tokens).nameWidth ∧
      (∀ token ∈ tokens, (token.name.length : Int) ≤ (p.layout tokens).nameWidth) ∧
      ((p.layout tokens).nameWidth = p.nameWidthFloor ∨
        ∃ token ∈ tokens, (p.layout tokens).nameWidth = token.name.length) := by
  obtain ⟨above, wide, tight⟩ := Layout.nameWidth_spec p.nameWidthFloor
    (tokens.map fun token => (token.name, (token.count : Int)))
  refine ⟨above, fun token member => wide _ (List.mem_map_of_mem member), tight.imp_right ?_⟩
  rintro ⟨i, among, same⟩
  obtain ⟨token, member, rfl⟩ := List.mem_map.mp among
  exact ⟨token, member, same⟩

/-- No name is so long that its column could not be asked for, so only the floor can be too much. -/
theorem isWidth_layout {tokens : List Token} (nonempty : tokens ≠ [])
    (sound : ∀ token ∈ tokens, token.IsSound p.registry.contains) :
    Report.isWidth (p.layout tokens).nameWidth = true ↔ ¬p.IsTooWide := by
  obtain ⟨above, wide, tight⟩ := p.nameWidth_spec tokens
  obtain ⟨first, member⟩ := List.exists_mem_of_ne_nil tokens nonempty
  have positive : 0 ≤ (p.layout tokens).nameWidth :=
    (Int.natCast_nonneg _).trans (wide first member)
  rw [Report.isWidth_of_nonneg positive, decide_eq_true_eq, IsTooWide, Int.not_le]
  constructor
  · exact above.trans_lt
  · intro fits
    rcases tight with same | ⟨token, among, same⟩
    · exact same.trans_lt fits
    · have limit : ((2 * numeralLimit + 2 : Nat) : Int) < Report.widthLimit := by decide
      have short := (sound token among).name_length
      omega

/-- A text that cannot be read costs no draw. -/
theorem roll_of_unread {fault : Fault} (unread : p.tokens text = .error fault) (source : σ) :
    (p.roll text).run source = ⟨.error fault, source, [], []⟩ := by
  unfold Pipeline.roll
  rw [Play.run_bind_of_error (by rw [unread]; rfl)]
  rfl

/-- A text with tokens is read token by token. -/
theorem tokens_eq_mapM (some : tokenize text ≠ []) :
    p.tokens text = (tokenize text).mapM (Token.parse p.registry.contains) := by
  cases parsed : (tokenize text).mapM (Token.parse p.registry.contains) with
  | error fault => exact tokens_eq_error_iff.mpr (.inl parsed)
  | ok tokens =>
    refine tokens_eq_ok_iff.mpr ⟨parsed, ?_⟩
    rintro rfl
    exact some (List.forall₂_nil_right_iff.mp (mapM_eq_ok_iff.mp parsed))

/-- A roll hangs on the tokens of a text only, if it has any. -/
theorem roll_congr {s : Text} (same : tokenize s = tokenize text) (some : tokenize s ≠ []) :
    (p.roll s : Play σ Text) = p.roll text := by
  have read : p.tokens s = p.tokens text := by
    rw [tokens_eq_mapM some, tokens_eq_mapM (same ▸ some), same]
  unfold Pipeline.roll
  rw [read]

theorem transform_of_isDiceLine (dice : isDiceLine text = true) :
    (p.transform text : Play σ (Option Text)) = some <$> p.roll text := by
  have matched : recognize text = some (text.trim isSeparator) :=
    recognize_eq_some_iff_trim.mpr ⟨dice, rfl⟩
  have tokens := tokenize_ne_nil_of_isDiceLine dice
  rw [← tokenize_trim] at tokens
  have same : (p.roll (text.trim isSeparator) : Play σ Text) = p.roll text :=
    roll_congr (tokenize_trim text) tokens
  unfold Pipeline.transform
  rw [matched, ← same]

theorem transform_of_not_isDiceLine (other : isDiceLine text = false) :
    (p.transform text : Play σ (Option Text)) = pure none := by
  unfold Pipeline.transform
  rw [recognize_eq_none_iff.mpr other]

/-- With the built-in processors and an honest source, a text that can be read is rolled in full.
Then only the floor of the column can keep the report from being written. -/
theorem roll_of_read (honest : RandomSource.Honest σ) (builtin : p.registry = .builtin)
    {tokens : List Token} (read : p.tokens text = .ok tokens) (source : σ) :
    ∃ instructions rest, List.Forall₂ Token.RolledAs tokens instructions ∧
      (p.roll text).run source =
        ⟨if p.IsTooWide then .error .columnTooWide
          else .ok (Report.render p.label (p.layout tokens) instructions),
          rest, tokens.flatMap Token.draws,
          [.rolled instructions.length (p.layout tokens).plural]⟩ := by
  have sound := isSound_of_tokens read
  have nonempty := (tokens_eq_ok_iff.mp read).2
  obtain ⟨instructions, rest, run, all⟩ := rollTokens_honest honest builtin sound source
  refine ⟨instructions, rest, all, ?_⟩
  have some : instructions ≠ [] := by
    rintro rfl
    exact nonempty (List.forall₂_nil_right_iff.mp all)
  have writable : ∀ i ∈ instructions, i.IsWritable := by
    intro i member
    obtain ⟨token, among, rolledAs⟩ := forall₂_exists_left all i member
    rw [builtin] at sound
    exact rolledAs.isWritable (sound token among)
  unfold Pipeline.roll
  rw [read, Play.run_bind_of_run (Play.run_ofExcept _ source), Play.run_bind_of_run run]
  dsimp only
  rw [Play.run_bind_of_run (Play.run_note _ rest), Report.write_of_isWritable some writable,
    Play.run_ofExcept]
  simp [Played.followedBy, isWidth_layout nonempty sound]

end Pipeline

end InlineDice
