import InlineDice.Notation.Line
import Mathlib.Data.List.DropRight

namespace InlineDice.Notation

/-- A run of characters that separate nothing, such as a token. -/
def IsSolid (t : Text) : Prop := t ≠ [] ∧ ∀ c ∈ t, isSeparator c = false

/-- A place where no token goes on: the end of a text, or a separator. -/
def IsBoundary (rest : Text) : Prop := ∀ c ∈ rest.head?, isSeparator c = true

theorem isBoundary_cons {c : Char} {rest : Text} :
    IsBoundary (c :: rest) ↔ isSeparator c = true := by
  simp [IsBoundary]

/-- Every text is put together from separators and from solid runs that end at a boundary. -/
theorem text_induction {motive : Text → Prop} (nil : motive [])
    (separator : ∀ c rest, isSeparator c = true → motive rest → motive (c :: rest))
    (run : ∀ t rest, IsSolid t → IsBoundary rest → motive rest → motive (t ++ rest)) (s : Text) :
    motive s := by
  induction length : s.length using Nat.strong_induction_on generalizing s with
  | _ n ih =>
    subst length
    cases s with
    | nil => exact nil
    | cons c rest =>
      by_cases sep : isSeparator c = true
      · exact separator c rest sep (ih _ (Nat.lt_succ_self _) rest rfl)
      · let t := (c :: rest).takeWhile (!isSeparator ·)
        let after := (c :: rest).dropWhile (!isSeparator ·)
        have split : t ++ after = c :: rest := List.takeWhile_append_dropWhile
        have first : t = c :: rest.takeWhile (!isSeparator ·) := by simp [t, sep]
        have solid : IsSolid t := by
          refine ⟨by simp [first], ?_⟩
          intro d member
          simpa using List.mem_takeWhile_imp member
        have boundary : IsBoundary after := by
          intro d atHead
          have refused := List.head?_dropWhile_not (!isSeparator ·) (c :: rest)
          rw [Option.mem_def.mp atHead] at refused
          simpa using refused
        have shorter : after.length < (c :: rest).length := by
          rw [← split, first, List.length_append, List.length_cons]
          omega
        rw [← split]
        exact run t after solid boundary (ih _ shorter after rfl)

theorem tokenize_nil : tokenize [] = [] := by
  simp [tokenize]

/-- A separator parts the tokens before it from those after it. -/
theorem tokenize_append_separator {c : Char} (sep : isSeparator c = true) (s rest : Text) :
    tokenize (s ++ c :: rest) = tokenize s ++ tokenize rest := by
  unfold tokenize
  rw [List.splitOnP_append_cons s rest sep, List.filter_append]

theorem tokenize_cons_separator {c : Char} (sep : isSeparator c = true) (s : Text) :
    tokenize (c :: s) = tokenize s := by
  simpa [tokenize_nil] using tokenize_append_separator sep [] s

/-- At a boundary no token of the first text goes on in the second. -/
theorem tokenize_append_boundary {rest : Text} (boundary : IsBoundary rest) (s : Text) :
    tokenize (s ++ rest) = tokenize s ++ tokenize rest := by
  cases rest with
  | nil => rw [tokenize_nil, List.append_nil, List.append_nil]
  | cons c rest =>
    have sep := isBoundary_cons.mp boundary
    rw [tokenize_append_separator sep, tokenize_cons_separator sep]

theorem tokenize_of_isSolid {t : Text} (solid : IsSolid t) : tokenize t = [t] := by
  unfold tokenize
  rw [List.splitOnP_eq_singleton solid.2]
  simp [solid.1]

/-- A solid run up to a boundary is a token of its own. -/
theorem tokenize_run {t rest : Text} (solid : IsSolid t) (boundary : IsBoundary rest) :
    tokenize (t ++ rest) = t :: tokenize rest := by
  rw [tokenize_append_boundary boundary, tokenize_of_isSolid solid, List.singleton_append]

theorem isSolid_of_mem_tokenize {s t : Text} (member : t ∈ tokenize s) : IsSolid t := by
  induction s using text_induction with
  | nil => simp [tokenize_nil] at member
  | separator c rest sep ih => exact ih (by rwa [tokenize_cons_separator sep] at member)
  | run first rest solid boundary ih =>
    rw [tokenize_run solid boundary] at member
    rcases List.mem_cons.mp member with same | later
    · exact same ▸ solid
    · exact ih later

/-- Separators before a text add no token. -/
theorem tokenize_append_left {lead : Text} (separators : ∀ c ∈ lead, isSeparator c = true)
    (s : Text) : tokenize (lead ++ s) = tokenize s := by
  induction lead with
  | nil => rfl
  | cons c lead ih =>
    rw [List.cons_append, tokenize_cons_separator (separators c (List.mem_cons_self ..))]
    exact ih fun d member => separators d (List.mem_cons_of_mem _ member)

/-- Separators after a text add no token. -/
theorem tokenize_append_right {trail : Text} (separators : ∀ c ∈ trail, isSeparator c = true)
    (s : Text) : tokenize (s ++ trail) = tokenize s := by
  have boundary : IsBoundary trail := fun c first => separators c (List.mem_of_mem_head? first)
  have none : tokenize trail = [] := by
    rw [← List.append_nil trail, tokenize_append_left separators, tokenize_nil]
  rw [tokenize_append_boundary boundary, none, List.append_nil]

/-- Without a token there is nothing but separators. -/
theorem separators_of_tokenize_eq_nil {s : Text} (empty : tokenize s = []) :
    ∀ c ∈ s, isSeparator c = true := by
  induction s using text_induction with
  | nil => simp
  | separator c rest sep ih =>
    rw [tokenize_cons_separator sep] at empty
    exact List.forall_mem_cons.mpr ⟨sep, ih empty⟩
  | run t rest solid boundary _ =>
    rw [tokenize_run solid boundary] at empty
    contradiction

end InlineDice.Notation
