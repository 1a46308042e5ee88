import InlineDice.Proofs.DiceLines
import InlineDice.Proofs.JoinedTokens

namespace InlineDice.Notation

/-- Tokens with separators between any two neighbours, as the grammar of lines puts them. -/
inductive IsSpan : Text → Prop
  | token {t : Text} : IsToken t → IsSpan t
  | more {t gap rest : Text} : IsToken t → gap ≠ [] → (∀ c ∈ gap, isSeparator c = true) →
      IsSpan rest → IsSpan (t ++ (gap ++ rest))

theorem IsToken.isSolid {t : Text} (isToken : IsToken t) : IsSolid t := by
  obtain ⟨w, rfl⟩ := isToken
  exact w.text_isSolid

theorem IsSpan.tokens {m : Text} (span : IsSpan m) :
    tokenize m ≠ [] ∧ ∀ t ∈ tokenize m, IsToken t := by
  induction span with
  | token isToken => simp [tokenize_of_isSolid isToken.isSolid, isToken]
  | more isToken apart separators _ ih =>
    rw [tokenize_append_gap ⟨apart, separators⟩, tokenize_of_isSolid isToken.isSolid]
    exact ⟨List.cons_ne_nil _ _, List.forall_mem_cons.mpr ⟨isToken, ih.2⟩⟩

theorem IsSpan.ne_nil {m : Text} (span : IsSpan m) : m ≠ [] := by
  rintro rfl
  exact span.tokens.1 tokenize_nil

theorem IsSpan.solid_head {m : Text} (span : IsSpan m) : ∀ c ∈ m.head?, isSeparator c = false := by
  have atFirst {t : Text} (solid : IsSolid t) (rest : Text) :
      ∀ c ∈ (t ++ rest).head?, isSeparator c = false := by
    intro c first
    rw [List.head?_append_of_ne_nil _ solid.1] at first
    exact solid.2 c (List.mem_of_mem_head? first)
  cases span with
  | token isToken => simpa using atFirst isToken.isSolid []
  | more isToken _ _ _ => exact atFirst isToken.isSolid _

theorem IsSpan.solid_last {m : Text} (span : IsSpan m) :
    ∀ c ∈ m.getLast?, isSeparator c = false := by
  induction span with
  | token isToken => exact fun c last => isToken.isSolid.2 c (List.mem_of_mem_getLast? last)
  | more _ _ _ rest ih =>
    intro c last
    rw [← List.append_assoc, List.getLast?_append_of_ne_nil _ rest.ne_nil] at last
    exact ih c last

theorem IsJoined.isSpan {ts : List Text} {m : Text} (joined : IsJoined ts m) (some : ts ≠ [])
    (all : ∀ t ∈ ts, IsToken t) : IsSpan m := by
  induction joined with
  | none => exact absurd rfl some
  | one t => exact .token (all t (List.mem_cons_self ..))
  | more isGap nonempty _ ih =>
    obtain ⟨isToken, later⟩ := List.forall_mem_cons.mp all
    exact .more isToken isGap.1 isGap.2 (ih nonempty later)

/-- A text whose tokens all are dice tokens is a span between separators. -/
theorem exists_span {s : Text} (some : tokenize s ≠ []) (all : ∀ t ∈ tokenize s, IsToken t) :
    ∃ lead m trail, s = lead ++ m ++ trail ∧ (∀ c ∈ lead, isSeparator c = true) ∧
      (∀ c ∈ trail, isSeparator c = true) ∧ IsSpan m := by
  obtain ⟨lead, m, trail, split, leading, trailing, joined⟩ := exists_isJoined s
  exact ⟨lead, m, trail, split, leading, trailing, joined.isSpan some all⟩

/-- What is recognized is the one span of the line grammar that a line holds between separators;
there is never a choice of where it begins or ends. -/
theorem recognize_eq_some_iff {s m : Text} :
    recognize s = some m ↔ IsSpan m ∧ ∃ lead trail, s = lead ++ m ++ trail ∧
      (∀ c ∈ lead, isSeparator c = true) ∧ ∀ c ∈ trail, isSeparator c = true := by
  have only {lead m trail : Text} (split : s = lead ++ m ++ trail)
      (leading : ∀ c ∈ lead, isSeparator c = true) (trailing : ∀ c ∈ trail, isSeparator c = true)
      (span : IsSpan m) : Text.IsCore isSeparator s m :=
    ⟨lead, trail, split, leading, trailing, span.solid_head, span.solid_last⟩
  rw [recognize_eq_some_iff_trim]
  constructor
  · rintro ⟨dice, rfl⟩
    obtain ⟨nonempty, all⟩ := (isDiceLine_iff s).mp dice
    obtain ⟨lead, m, trail, split, leading, trailing, span⟩ := exists_span nonempty all
    rw [(only split leading trailing span).trim_eq span.ne_nil]
    exact ⟨span, lead, trail, split, leading, trailing⟩
  · rintro ⟨span, lead, trail, split, leading, trailing⟩
    have isCore := only split leading trailing span
    have tokens := span.tokens
    rw [tokenize_of_isCore isCore] at tokens
    exact ⟨(isDiceLine_iff s).mpr tokens, isCore.trim_eq span.ne_nil⟩

end InlineDice.Notation
