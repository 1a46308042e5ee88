import InlineDice.Text.Lines
import Mathlib.Data.List.DropRight

namespace InlineDice.Text

variable {drop : Char → Bool}

/-- A text without its runs of `drop` at both ends, which are as long as they can be. -/
def IsCore (drop : Char → Bool) (s core : Text) : Prop :=
  ∃ lead trail, s = lead ++ core ++ trail ∧ (∀ c ∈ lead, drop c = true) ∧
    (∀ c ∈ trail, drop c = true) ∧ (∀ c ∈ core.head?, drop c = false) ∧
    ∀ c ∈ core.getLast?, drop c = false

theorem trimEnd_eq_rdropWhile (drop : Char → Bool) (s : Text) :
    trimEnd drop s = s.rdropWhile drop := rfl

theorem trimEnd_append_rtakeWhile (drop : Char → Bool) (s : Text) :
    trimEnd drop s ++ s.rtakeWhile drop = s := by
  rw [trimEnd_eq_rdropWhile]
  exact List.rdropWhile_append_rtakeWhile ..

theorem trimEnd_append {trail : Text} (all : ∀ c ∈ trail, drop c = true) (s : Text) :
    trimEnd drop (s ++ trail) = trimEnd drop s := by
  induction trail using List.reverseRecOn with
  | nil => rw [List.append_nil]
  | append_singleton trail c ih =>
    rw [trimEnd_eq_rdropWhile, ← List.append_assoc,
      List.rdropWhile_concat_pos _ _ _ (all c (by simp)), ← trimEnd_eq_rdropWhile]
    exact ih fun d member => all d (List.mem_append_left _ member)

theorem trimEnd_eq_self {s : Text} (ends : ∀ c ∈ s.getLast?, drop c = false) :
    trimEnd drop s = s := by
  rw [trimEnd_eq_rdropWhile, List.rdropWhile_eq_self_iff]
  intro nonempty
  simp [ends _ (List.getLast?_eq_some_getLast nonempty)]

theorem trimEnd_getLast {s : Text} {c : Char} (last : c ∈ (trimEnd drop s).getLast?) :
    drop c = false := by
  have nonempty : s.rdropWhile drop ≠ [] := by
    intro empty
    rw [trimEnd_eq_rdropWhile, empty] at last
    simp at last
  have kept := List.rdropWhile_last_not drop s nonempty
  rw [trimEnd_eq_rdropWhile, List.getLast?_eq_some_getLast nonempty] at last
  cases last
  simpa using kept

theorem trim_isCore (drop : Char → Bool) (s : Text) : IsCore drop s (trim drop s) := by
  refine ⟨s.takeWhile drop, (s.dropWhile drop).rtakeWhile drop, ?_, ?_, ?_, ?_, ?_⟩
  · rw [List.append_assoc, trim, trimStart, trimEnd_append_rtakeWhile,
      List.takeWhile_append_dropWhile]
  · exact fun c member => List.mem_takeWhile_imp member
  · exact fun c member => List.mem_rtakeWhile_imp member
  · intro c first
    have kept := List.head?_dropWhile_not drop s
    have atCore : (trimEnd drop (s.dropWhile drop)).head? = some c := first
    have atStart : (s.dropWhile drop).head? = some c := by
      rw [← trimEnd_append_rtakeWhile drop (s.dropWhile drop), List.head?_append, atCore]
      rfl
    rw [atStart] at kept
    simpa using kept
  · exact fun c last => trimEnd_getLast last

/-- There is one core only, so trimming finds it. -/
theorem IsCore.trim_eq {s core : Text} (isCore : IsCore drop s core) (nonempty : core ≠ []) :
    trim drop s = core := by
  obtain ⟨lead, trail, rfl, leading, trailing, first, last⟩ := isCore
  obtain ⟨c, rest, rfl⟩ := List.exists_cons_of_ne_nil nonempty
  have kept : drop c = false := first c rfl
  have start : trimStart drop (lead ++ c :: rest ++ trail) = c :: rest ++ trail := by
    rw [trimStart, List.append_assoc, List.dropWhile_append_of_pos leading, List.cons_append,
      List.dropWhile_cons_of_neg (by simp [kept])]
  rw [trim, start, trimEnd_append trailing, trimEnd_eq_self last]

end InlineDice.Text
