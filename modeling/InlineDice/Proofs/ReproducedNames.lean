import InlineDice.Proofs.ReportReading
import InlineDice.Proofs.TokenLimits

namespace InlineDice

open Notation

/-- The name of a token is itself read as that token, with any processors at hand. -/
theorem Notation.Token.parse_name {known : Char → Bool} {t : Text} {token : Token}
    (read : Token.parse known t = .ok token) : Token.parse known token.name = .ok token := by
  obtain ⟨parts, -, -, split, -⟩ := Token.parse_eq_ok_iff.mp read
  obtain ⟨single, -, facesShort, ranged, holds, rfl⟩ := (Parts.parse_eq_ok_iff split).mp read
  by_cases missing : parts.count = []
  · -- The name has a count of its own, which is the one die that the token rolls without it.
    obtain ⟨whole, -, facesDigits, nonempty, ended⟩ := Parts.of?_eq_some_iff.mp split
    let named : Parts := ⟨['1'], parts.faces, parts.rest⟩
    have name : (parts.token t).name = '1' :: t := if_pos missing
    have splitName : Parts.of? ('1' :: t) = some named :=
      Parts.of?_eq_some_iff.mpr ⟨by rw [whole, missing]; rfl,
        List.forall_mem_singleton.mpr (by decide), facesDigits, nonempty, ended⟩
    have same : named.token ('1' :: t) = parts.token t := by
      simp [Parts.token, missing, named, Nat.ofDigitChars]
    have one : ['1'].length ≤ numeralLimit := by decide
    rw [name, Parts.parse_eq_ok_iff splitName, same]
    exact ⟨single, one, facesShort, ranged, holds, rfl⟩
  · have name : (parts.token t).name = t := if_neg missing
    rw [name]
    exact read

namespace Pipeline

variable {p : Pipeline} {text : Text} {tokens : List Token}

/-- The names of the tokens of a text, with commas between them, have the same tokens. -/
theorem tokens_join_names (read : p.tokens text = .ok tokens) :
    p.tokens (Text.join ", ".toList (tokens.map Token.name)) = .ok tokens := by
  obtain ⟨parsed, nonempty⟩ := tokens_eq_ok_iff.mp read
  have solid : ∀ name ∈ tokens.map Token.name, IsSolid name := by
    intro name member
    obtain ⟨token, among, rfl⟩ := List.mem_map.mp member
    exact isSolid_name_of_tokens read token among
  have names : tokenize (Text.join ", ".toList (tokens.map Token.name)) = tokens.map Token.name := by
    have ends : IsBoundary [] := by simp [IsBoundary]
    have joined := Text.tokenize_join solid ends
    rwa [List.append_nil, tokenize_nil, List.append_nil] at joined
  refine tokens_eq_ok_iff.mpr ⟨?_, nonempty⟩
  rw [names, mapM_eq_ok_iff, List.forall₂_map_left_iff, List.forall₂_same]
  intro token member
  obtain ⟨t, -, parsedFrom⟩ := forall₂_exists_left (mapM_eq_ok_iff.mp parsed) token member
  exact Token.parse_name parsedFrom

end Pipeline

/-- The names in a report reproduce it. Rolled with commas between them, on the same pipeline and from
the same state of the source, they come to the same report by the same draws; and each name is read
as the token it stands for. -/
theorem names_reproduce_report {σ : Type} [RandomSource σ] (p : Pipeline) :
    (∀ (text report : Text) (source : σ), ((p.roll text).run source).outcome = .ok report →
      ∃ tokens instructions, p.tokens text = .ok tokens ∧
        ((p.rollTokens tokens).run source).outcome = .ok instructions ∧
        instructions.map Instruction.name = tokens.map Token.name ∧
        report = Report.render p.label (p.layout tokens) instructions ∧
        (p.roll (Text.join ", ".toList (instructions.map Instruction.name))).run source =
          (p.roll text).run source) ∧
    ∀ (known : Char → Bool) (t : Text) (token : Token), Token.parse known t = .ok token →
      Token.parse known token.name = .ok token := by
  refine ⟨?_, fun known t token => Token.parse_name⟩
  intro text report source ran
  obtain ⟨tokens, instructions, read, rolled, names, rendered⟩ := Pipeline.exists_instructions ran
  refine ⟨tokens, instructions, read, rolled, names, rendered, ?_⟩
  rw [names]
  unfold Pipeline.roll
  rw [Pipeline.tokens_join_names read, read]

theorem names_reproduce_report_implicit_counts :
    let source : Script := .cycle [5, 3, 2] [5, 3, 2]
    (∃ report,
      ((Pipeline.default.roll " ,d6+\t0007d06, d4".toList).run source).outcome = .ok report ∧
      (Pipeline.default.roll "1d6+, 0007d06, 1d4".toList).run source =
        (Pipeline.default.roll " ,d6+\t0007d06, d4".toList).run source) ∧
    Token.parse (· == '+') "d06+".toList = .ok ⟨"1d06+".toList, 1, 6, some '+'⟩ ∧
      Token.parse (· == '+') "1d06+".toList = .ok ⟨"1d06+".toList, 1, 6, some '+'⟩ := by
  intro source
  have read : Pipeline.default.tokens " ,d6+\t0007d06, d4".toList =
      .ok [⟨"1d6+".toList, 1, 6, some '+'⟩, ⟨"0007d06".toList, 7, 6, none⟩,
        ⟨"1d4".toList, 1, 4, none⟩] := by rfl
  have rolled : ((Pipeline.default.roll " ,d6+\t0007d06, d4".toList).run source).outcome.toBool =
      true := by
    decide +kernel
  have parsed : Token.parse (· == '+') "d06+".toList = .ok ⟨"1d06+".toList, 1, 6, some '+'⟩ := by rfl
  obtain ⟨report, ran⟩ := toBool_eq_true_iff.mp rolled
  obtain ⟨reproduced, named⟩ := names_reproduce_report (σ := Script) .default
  obtain ⟨tokens, instructions, again, -, names, -, same⟩ := reproduced _ report source ran
  rw [read] at again
  injection again with again
  subst again
  rw [names] at same
  exact ⟨⟨report, ran, same⟩, parsed, named _ _ _ parsed⟩

end InlineDice
