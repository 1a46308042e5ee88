import InlineDice.Proofs.TokenRuns

namespace InlineDice.Notation

/-- What can stand between two tokens: one separator at least, and nothing else. -/
def IsGap (gap : Text) : Prop := gap ≠ [] ∧ ∀ c ∈ gap, isSeparator c = true

instance (gap : Text) : Decidable (IsGap gap) :=
  decidable_of_iff (gap.isEmpty = false ∧ gap.all isSeparator = true) (by simp [IsGap])

/-- Texts one after the other with a gap between any two neighbours, each gap of its own kind. -/
inductive IsJoined : List Text → Text → Prop
  | none : IsJoined [] []
  | one (t : Text) : IsJoined [t] t
  | more {t gap s : Text} {ts : List Text} : IsGap gap → ts ≠ [] → IsJoined ts s →
      IsJoined (t :: ts) (t ++ (gap ++ s))

theorem IsGap.isBoundary {gap : Text} (isGap : IsGap gap) (rest : Text) :
    IsBoundary (gap ++ rest) := by
  obtain ⟨c, more, rfl⟩ := List.exists_cons_of_ne_nil isGap.1
  exact isBoundary_cons.mpr (isGap.2 c (List.mem_cons_self ..))

/-- A gap parts the tokens before it from those after it, and adds none of its own. Where the texts
beside it end or begin with separators too, they only make the gap longer. -/
theorem tokenize_append_gap {gap : Text} (isGap : IsGap gap) (a b : Text) :
    tokenize (a ++ (gap ++ b)) = tokenize a ++ tokenize b := by
  rw [tokenize_append_boundary (isGap.isBoundary b), tokenize_append_left isGap.2]

/-- Joined texts have the tokens of each of them, in order. -/
theorem IsJoined.tokenize_eq {ts : List Text} {s : Text} (joined : IsJoined ts s) :
    tokenize s = ts.flatMap tokenize := by
  induction joined with
  | none => rw [tokenize_nil, List.flatMap_nil]
  | one t => rw [List.flatMap_singleton]
  | more isGap _ _ ih => rw [tokenize_append_gap isGap, ih, List.flatMap_cons]

theorem flatMap_tokenize_of_isSolid {ts : List Text} (solid : ∀ t ∈ ts, IsSolid t) :
    ts.flatMap tokenize = ts := by
  induction ts with
  | nil => rfl
  | cons t ts ih =>
    obtain ⟨first, later⟩ := List.forall_mem_cons.mp solid
    rw [List.flatMap_cons, tokenize_of_isSolid first, ih later, List.singleton_append]

theorem isJoined_join {gap : Text} (isGap : IsGap gap) (ts : List Text) :
    IsJoined ts (Text.join gap ts) := by
  fun_induction Text.join gap ts with
  | case1 => exact .none
  | case2 t => exact .one t
  | case3 t next more ih =>
    rw [List.append_assoc]
    exact .more isGap (List.cons_ne_nil next more) ih

theorem IsJoined.exists_rest {t s : Text} {ts : List Text} (joined : IsJoined (t :: ts) s) :
    ∃ rest, s = t ++ rest := by
  cases joined with
  | one => exact ⟨[], (List.append_nil t).symm⟩
  | more => exact ⟨_, rfl⟩

/-- Every text is its tokens joined, between separators. -/
theorem exists_isJoined (s : Text) :
    ∃ lead m trail, s = lead ++ m ++ trail ∧ (∀ c ∈ lead, isSeparator c = true) ∧
      (∀ c ∈ trail, isSeparator c = true) ∧ IsJoined (tokenize s) m := by
  induction s using text_induction with
  | nil => exact ⟨[], [], [], rfl, by simp, by simp, .none⟩
  | separator c rest sep ih =>
    rw [tokenize_cons_separator sep]
    obtain ⟨lead, m, trail, rfl, leading, trailing, joined⟩ := ih
    exact ⟨c :: lead, m, trail, rfl, List.forall_mem_cons.mpr ⟨sep, leading⟩, trailing, joined⟩
  | run t rest solid boundary ih =>
    rw [tokenize_run solid boundary]
    cases tokens : tokenize rest with
    | nil => exact ⟨[], t, rest, rfl, by simp, separators_of_tokenize_eq_nil tokens, .one t⟩
    | cons next ts =>
      have solidNext := isSolid_of_mem_tokenize (tokens ▸ List.mem_cons_self ..)
      rw [tokens] at ih
      obtain ⟨gap, m, trail, rfl, separators, trailing, joined⟩ := ih
      -- The gap cannot be empty: a token stands behind it, and `t` ends at a boundary.
      have apart : gap ≠ [] := by
        rintro rfl
        obtain ⟨after, rfl⟩ := joined.exists_rest
        obtain ⟨c, more, rfl⟩ := List.exists_cons_of_ne_nil solidNext.1
        have sep := boundary c rfl
        rw [solidNext.2 c (List.mem_cons_self ..)] at sep
        cases sep
      exact ⟨[], t ++ (gap ++ m), trail, by simp, by simp, trailing,
        .more ⟨apart, separators⟩ (List.cons_ne_nil next ts) joined⟩

end InlineDice.Notation
