import InlineDice.Proofs.DiceThrows

namespace InlineDice

open Notation

variable {σ : Type} [RandomSource σ] {source : σ}

/-- A source that answers with the lower bound, always. -/
inductive Lowest where
  | lowest

instance : RandomSource Lowest where
  draw low _ source := (some low, source)

theorem Lowest.honest : RandomSource.Honest Lowest := fun low _ _ order =>
  ⟨low, rfl, Int.le_refl low, order⟩

/-- Whatever is drawn from a source, its answers keep within the bounds it was asked for. -/
def KeepsBounds (source : σ) : Prop :=
  ∀ draws values rest, Answers source draws values rest →
    List.Forall₂ (fun draw value =>
      draw.low ≤ draw.high → draw.low ≤ value ∧ value ≤ draw.high) draws values

theorem RandomSource.Honest.keepsBounds (honest : RandomSource.Honest σ) (source : σ) :
    KeepsBounds source := by
  intro draws values rest answers
  induction answers with
  | nil => exact .nil
  | cons drawn _ ih =>
    refine .cons (fun order => ?_) ih
    obtain ⟨value, answered, bounds⟩ := honest _ _ _ order
    rw [drawn] at answered
    cases answered
    exact bounds

theorem KeepsBounds.after {mid : σ} {draws : List Draw} {values : List Int}
    (bounded : KeepsBounds source) (answers : Answers source draws values mid) :
    KeepsBounds mid := by
  intro more further rest later
  have all := List.forall₂_drop_append _ _ _ (bounded _ _ _ (answers.append later))
  rwa [List.drop_left' answers.length_eq.symm] at all

theorem KeepsBounds.dice {token : Token} (bounded : KeepsBounds source) (faces : 1 ≤ token.faces)
    {values : List Int} {rest : σ} (answers : Answers source token.draws values rest) :
    ∀ v ∈ values, 1 ≤ v ∧ v ≤ (token.faces : Int) := by
  intro v member
  obtain ⟨draw, drawn, keeps⟩ := forall₂_exists_left (bounded _ _ _ answers) v member
  rw [List.eq_of_mem_replicate drawn] at keeps
  exact keeps (Int.ofNat_le.mpr faces)

theorem Thrown.faces {r : Registry} {tokens : List Token} {throws : List Throw} {rest : σ}
    (thrown : Thrown r tokens source throws rest) (bounded : KeepsBounds source)
    (faces : ∀ token ∈ tokens, 1 ≤ token.faces) :
    List.Forall₂ (fun token throw => token.Throws r throw ∧
      ∀ v ∈ throw.values, 1 ≤ v ∧ v ≤ (token.faces : Int)) tokens throws := by
  -- Wherever a throw leaves the source, it still keeps within its bounds for the tokens after it.
  induction tokens generalizing source throws with
  | nil =>
    have none : throws = [] := List.forall₂_nil_left_iff.mp thrown.each
    exact none ▸ .nil
  | cons token tokens ih =>
    obtain ⟨facesFirst, facesRest⟩ := List.forall_mem_cons.mp faces
    obtain ⟨throw, throws, -, -, rfl⟩ := List.forall₂_cons_left_iff.mp thrown.each
    obtain ⟨mid, answers, first, later⟩ := Thrown.cons_iff.mp thrown
    exact .cons ⟨first, bounded.dice facesFirst answers⟩
      (ih later (bounded.after answers) facesRest)

theorem builtin_contains_iff {c : Char} :
    Registry.builtin.contains c = true ↔ c = '<' ∨ c = '>' ∨ c = '+' := by
  rw [Registry.contains_iff]
  simp [Registry.symbols, Registry.builtin]

/-- The built-in processors only arrange the rolls, and add them up at most. -/
theorem builtin_apply {symbol : Option Char}
    (known : ∀ c ∈ symbol, Registry.builtin.contains c = true) (rolls : List Int) :
    ∃ result, Registry.builtin.apply (symbol.map fun c => .text [c]) rolls = .ok ⟨result, rolls⟩ ∧
      result.rolls.Perm rolls ∧ ∀ total ∈ result.aggregate, total = rolls.foldl (· + ·) 0 := by
  cases symbol with
  | none => exact ⟨⟨rolls, none⟩, rfl, .refl _, by simp⟩
  | some c =>
    rcases builtin_contains_iff.mp (known c rfl) with rfl | rfl | rfl
    · exact ⟨⟨rolls.mergeSort (· ≤ ·), none⟩, rfl, List.mergeSort_perm _ _, by simp⟩
    · exact ⟨⟨rolls.mergeSort (· ≥ ·), none⟩, rfl, List.mergeSort_perm _ _, by simp⟩
    · exact ⟨⟨rolls, some (rolls.foldl (· + ·) 0)⟩, rfl, .refl _, by simp⟩

namespace Notation

/-- An instruction that the dice of a token came to, by a built-in processor. -/
def Token.RolledAs (token : Token) (i : Instruction) : Prop :=
  i.name = token.name ∧ ∃ rolls, rolls.length = token.count ∧
    (∀ v ∈ rolls, 1 ≤ v ∧ v ≤ (token.faces : Int)) ∧
    Registry.builtin.apply (token.processor.map fun c => .text [c]) rolls = .ok ⟨i.result, rolls⟩

/-- With the built-in processors an honest source never lets a token fail. -/
theorem Token.not_fails (honest : RandomSource.Honest σ) {token : Token}
    (sound : token.IsSound Registry.builtin.contains) {fault : Fault} {own : List Draw} {rest : σ} :
    ¬token.Fails .builtin source fault own rest := by
  intro fails
  cases fails with
  | @dry _ _ mid _ few answers dry =>
    obtain ⟨value, answered, -⟩ := honest 1 token.faces mid (Int.ofNat_le.mpr sound.one_le_faces)
    rw [dry] at answered
    cases answered
  | processor answers named held fails =>
    obtain ⟨result, applied, -⟩ := builtin_apply sound.known_processor _
    rw [named, Option.map_some, Registry.apply_of_call held, fails] at applied
    cases applied

end Notation

/-- Tokens are rolled in order, and nothing but their dice is drawn. -/
theorem Pipeline.rollTokens_honest {p : Pipeline} (honest : RandomSource.Honest σ)
    (builtin : p.registry = .builtin) {tokens : List Token}
    (sound : ∀ token ∈ tokens, token.IsSound p.registry.contains) (source : σ) :
    ∃ instructions rest, (p.rollTokens tokens).run source =
        ⟨.ok instructions, rest, tokens.flatMap Token.draws, []⟩ ∧
      List.Forall₂ Token.RolledAs tokens instructions := by
  rcases Pipeline.thrown_or_stopped sound source with ⟨throws, rest, thrown⟩ |
    ⟨done, token, later, -, mid, fault, own, rest, rfl, -, fails⟩
  · refine ⟨_, rest, rollTokens_of_thrown sound thrown, ?_⟩
    rw [builtin] at thrown
    have each := thrown.faces (honest.keepsBounds source) fun token member =>
      (sound token member).one_le_faces
    exact List.forall₂_map_right_iff.mpr (each.imp fun token throw ⟨throws, onFaces⟩ =>
      ⟨throws.name, throw.values, throws.length, onFaces, throws.applied⟩)
  · rw [builtin] at sound fails
    exact absurd fails (Token.not_fails honest (sound token (by simp)))

end InlineDice
