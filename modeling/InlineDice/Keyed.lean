namespace InlineDice.Keyed

variable {κ α : Type} [DecidableEq κ]

/-- Puts a value under a key. A known key keeps its place, a new one comes last. -/
def put (key : κ) (a : α) : List (κ × α) → List (κ × α)
  | [] => [(key, a)]
  | entry :: rest => if entry.1 = key then (key, a) :: rest else entry :: put key a rest

theorem keys_put (key : κ) (a : α) (entries : List (κ × α)) :
    (put key a entries).map Prod.fst =
      if key ∈ entries.map Prod.fst then entries.map Prod.fst
      else entries.map Prod.fst ++ [key] := by
  induction entries with
  | nil => rfl
  | cons entry rest ih =>
    unfold put
    split
    · next same => simp [same]
    · next other =>
      have apart : key ≠ entry.1 := Ne.symm other
      rw [List.map_cons, ih, List.map_cons]
      simp only [List.mem_cons, apart, false_or]
      split <;> rfl

section

variable [BEq κ] [LawfulBEq κ]

theorem lookup_entry (key : κ) (entry : κ × α) (rest : List (κ × α)) :
    (entry :: rest).lookup key = if key = entry.1 then some entry.2 else rest.lookup key := by
  rw [List.lookup_cons]
  split
  · next same => rw [if_pos (eq_of_beq same)]
  · next other => rw [if_neg (ne_of_beq_false other)]

theorem lookup_isSome_iff {key : κ} {entries : List (κ × α)} :
    (entries.lookup key).isSome = true ↔ key ∈ entries.map Prod.fst := by
  induction entries with
  | nil => simp
  | cons entry rest ih =>
    rw [lookup_entry, List.map_cons, List.mem_cons]
    split
    · next same => simp [same]
    · next other => simp [other, ih]

theorem lookup_put (key other : κ) (a : α) (entries : List (κ × α)) :
    (put key a entries).lookup other =
      if other = key then some a else entries.lookup other := by
  induction entries with
  | nil => exact lookup_entry other (key, a) []
  | cons entry rest ih =>
    unfold put
    split
    · next same => simp only [lookup_entry, same]; split <;> rfl
    · next apart =>
      rw [lookup_entry, lookup_entry, ih]
      by_cases same : other = key
      · rw [if_neg (same ▸ Ne.symm apart), if_pos same, if_pos same]
      · rw [if_neg same, if_neg same]

end

end InlineDice.Keyed
