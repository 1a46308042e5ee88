import InlineDice.Proofs.TokenRuns

namespace InlineDice.Notation

/-- A dice token letter by letter: the digits of its count, which may be missing, the digits of its
faces, and at most one character after them that is no digit and separates nothing. -/
structure Spelling where
  count : Text
  faces : Text
  mark : Option Char
  count_digits : ∀ c ∈ count, c.isDigit = true
  faces_digits : ∀ c ∈ faces, c.isDigit = true
  faces_ne_nil : faces ≠ []
  mark_free : ∀ c ∈ mark, c.isDigit = false ∧ isSeparator c = false

def Spelling.text (w : Spelling) : Text := w.count ++ 'd' :: (w.faces ++ w.mark.toList)

/-- What the notation calls a token, whatever its numbers and its processor are. -/
def IsToken (t : Text) : Prop := ∃ w : Spelling, w.text = t

theorem isSeparator_d : isSeparator 'd' = false := by decide

theorem Spelling.text_isSolid (w : Spelling) : IsSolid w.text := by
  refine ⟨by simp [Spelling.text], ?_⟩
  intro c member
  simp only [Spelling.text, List.mem_append, List.mem_cons, Option.mem_toList] at member
  rcases member with count | rfl | faces | mark
  · exact isSeparator_eq_false_of_isDigit (w.count_digits c count)
  · exact isSeparator_d
  · exact isSeparator_eq_false_of_isDigit (w.faces_digits c faces)
  · exact (w.mark_free c mark).2

namespace Progress

theorem foldl_refused (s : Text) : s.foldl next refused = refused := by
  induction s with
  | nil => rfl
  | cons c s ih => exact ih

theorem foldl_count_digits {digits : Text} (all : ∀ c ∈ digits, c.isDigit = true) :
    digits.foldl next count = count := by
  induction digits with
  | nil => rfl
  | cons c digits ih =>
    have first : next count c = count := by simp [next, opening, all c (List.mem_cons_self ..)]
    rw [List.foldl_cons, first]
    exact ih fun d member => all d (List.mem_cons_of_mem _ member)

theorem foldl_faces_digits {digits : Text} (all : ∀ c ∈ digits, c.isDigit = true) :
    digits.foldl next faces = faces := by
  induction digits with
  | nil => rfl
  | cons c digits ih =>
    have first : next faces c = faces := by simp [next, all c (List.mem_cons_self ..)]
    rw [List.foldl_cons, first]
    exact ih fun d member => all d (List.mem_cons_of_mem _ member)

/-- At the start of a line and in a gap a token is read as if its count had begun. -/
theorem foldl_opening {q : Progress} (atOpening : q = start ∨ q = gap) {t : Text}
    (solid : IsSolid t) : t.foldl next q = t.foldl next count := by
  cases t with
  | nil => exact absurd rfl solid.1
  | cons c t =>
    have bare := solid.2 c (List.mem_cons_self ..)
    rcases atOpening with rfl | rfl <;> simp [next, bare]

theorem foldl_spelling (w : Spelling) : (w.text.foldl next count).isComplete = true := by
  obtain ⟨f, more, split⟩ := List.exists_cons_of_ne_nil w.faces_ne_nil
  have digits := w.faces_digits
  rw [split] at digits
  have die : next count 'd' = die := by decide
  have begun : next Progress.die f = faces := by simp [next, digits f (List.mem_cons_self ..)]
  have run : w.text.foldl next count = w.mark.toList.foldl next faces := by
    rw [Spelling.text, List.foldl_append, foldl_count_digits w.count_digits, List.foldl_cons, die,
      split, List.cons_append, List.foldl_cons, begun, List.foldl_append,
      foldl_faces_digits fun c member => digits c (List.mem_cons_of_mem _ member)]
  rw [run]
  cases atMark : w.mark with
  | none => rfl
  | some c =>
    obtain ⟨noDigit, bare⟩ := w.mark_free c atMark
    simp [next, noDigit, bare, isComplete]

/-- After the faces come further digits and at most one other character. -/
theorem spelled_of_faces {t : Text} (bare : ∀ c ∈ t, isSeparator c = false)
    (complete : (t.foldl next faces).isComplete = true) :
    ∃ (digits : Text) (mark : Option Char), t = digits ++ mark.toList ∧
      (∀ c ∈ digits, c.isDigit = true) ∧ ∀ c ∈ mark, c.isDigit = false ∧ isSeparator c = false := by
  induction t with
  | nil => exact ⟨[], none, by simp⟩
  | cons c t ih =>
    have bareC := bare c (List.mem_cons_self ..)
    by_cases digit : c.isDigit = true
    · have step : next faces c = faces := by simp [next, digit]
      rw [List.foldl_cons, step] at complete
      obtain ⟨digits, mark, split, all, free⟩ :=
        ih (fun d member => bare d (List.mem_cons_of_mem _ member)) complete
      refine ⟨c :: digits, mark, by rw [split, List.cons_append], ?_, free⟩
      exact List.forall_mem_cons.mpr ⟨digit, all⟩
    · have noDigit := Bool.eq_false_iff.mpr digit
      cases t with
      | nil =>
        refine ⟨[], some c, rfl, by simp, ?_⟩
        intro d same
        cases same
        exact ⟨noDigit, bareC⟩
      | cons d t =>
        have bareD := bare d (List.mem_cons_of_mem _ (List.mem_cons_self ..))
        simp [next, noDigit, bareC, bareD, foldl_refused, isComplete] at complete

theorem spelled_of_count {t : Text} (bare : ∀ c ∈ t, isSeparator c = false)
    (complete : (t.foldl next count).isComplete = true) : IsToken t := by
  induction t with
  | nil => simp [isComplete] at complete
  | cons c t ih =>
    have bareT : ∀ d ∈ t, isSeparator d = false := fun d member =>
      bare d (List.mem_cons_of_mem _ member)
    by_cases digit : c.isDigit = true
    · have step : next count c = count := by simp [next, opening, digit]
      rw [List.foldl_cons, step] at complete
      obtain ⟨w, rfl⟩ := ih bareT complete
      exact ⟨{ w with
        count := c :: w.count
        count_digits := List.forall_mem_cons.mpr ⟨digit, w.count_digits⟩ }, rfl⟩
    · by_cases isD : c = 'd'
      · subst isD
        have step : next count 'd' = die := by decide
        rw [List.foldl_cons, step] at complete
        cases t with
        | nil => simp [isComplete] at complete
        | cons f t =>
          by_cases begins : f.isDigit = true
          · have begun : next die f = faces := by simp [next, begins]
            rw [List.foldl_cons, begun] at complete
            obtain ⟨digits, mark, rfl, all, free⟩ :=
              spelled_of_faces (fun d member => bareT d (List.mem_cons_of_mem _ member)) complete
            exact ⟨⟨[], f :: digits, mark, by simp, List.forall_mem_cons.mpr ⟨begins, all⟩,
              List.cons_ne_nil _ _, free⟩, rfl⟩
          · simp [next, Bool.eq_false_iff.mpr begins, foldl_refused, isComplete] at complete
      · simp [next, opening, Bool.eq_false_iff.mpr digit, isD, foldl_refused, isComplete]
          at complete

/-- On a solid run the reading is complete exactly when the run is spelled like a token. -/
theorem isComplete_iff_isToken {t : Text} (solid : IsSolid t) :
    (t.foldl next count).isComplete = true ↔ IsToken t := by
  constructor
  · exact spelled_of_count solid.2
  · rintro ⟨w, rfl⟩
    exact foldl_spelling w

end Progress

end InlineDice.Notation
