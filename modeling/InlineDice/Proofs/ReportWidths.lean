import InlineDice.Report
import Mathlib.Data.List.Forall2
import Mathlib.Tactic.Linarith

namespace InlineDice

/-- The column of names has room for the floor and for every name, and no more than one of them
needs. -/
theorem Layout.nameWidth_spec (floor : Int) (entries : List (Text × Int)) :
    floor ≤ (Layout.of floor entries).nameWidth ∧
      (∀ i ∈ entries, (i.1.length : Int) ≤ (Layout.of floor entries).nameWidth) ∧
      ((Layout.of floor entries).nameWidth = floor ∨
        ∃ i ∈ entries, (Layout.of floor entries).nameWidth = i.1.length) := by
  simp only [Layout.of]
  induction entries generalizing floor with
  | nil => simp
  | cons i entries ih =>
    obtain ⟨above, wide, tight⟩ := ih (max floor i.1.length)
    rw [List.foldl_cons]
    refine ⟨(le_max_left ..).trans above,
      List.forall_mem_cons.mpr ⟨(le_max_right ..).trans above, wide⟩, ?_⟩
    rcases tight with same | ⟨j, member, same⟩
    · rcases max_choice floor (i.1.length : Int) with left | right
      · exact .inl (same.trans left)
      · exact .inr ⟨i, List.mem_cons_self .., same.trans right⟩
    · exact .inr ⟨j, List.mem_cons_of_mem _ member, same⟩

/-- No number of the instruction has more digits than can be written. -/
def Instruction.IsWritable (i : Instruction) : Prop :=
  i.result.rolls.all Integer.isWritable = true ∧ i.result.aggregate.all Integer.isWritable = true

namespace Report

theorem isWidth_of_nonneg {width : Int} (positive : 0 ≤ width) :
    isWidth width = decide (width < widthLimit) := by
  have limit : 0 ≤ widthLimit := by decide
  unfold isWidth
  rw [decide_eq_true (by omega), Bool.true_and]

theorem fault?_of_isWritable {i : Instruction} (writable : i.IsWritable) (width : Int) :
    fault? width i = if isWidth width then none else some .columnTooWide := by
  cases wide : isWidth width <;> simp [fault?, wide, writable.1, writable.2]

/-- What keeps a report from being written is no fault of the dice text. -/
theorem isDice_of_write {label : Text} {layout : Layout} {instructions : List Instruction}
    {fault : Fault} (failed : write label layout instructions = .error fault) :
    fault.isDice = false := by
  unfold write at failed
  split at failed
  · next found =>
    cases failed
    obtain ⟨i, -, faulty⟩ := List.exists_of_findSome?_eq_some found
    unfold fault? at faulty
    split_ifs at faulty <;> cases faulty <;> rfl
  · cases failed

/-- With writable instructions only the width decides whether a report is written. -/
theorem write_of_isWritable {instructions : List Instruction} (nonempty : instructions ≠ [])
    (writable : ∀ i ∈ instructions, i.IsWritable) (label : Text) (layout : Layout) :
    write label layout instructions =
      if isWidth layout.nameWidth then .ok (render label layout instructions)
      else .error .columnTooWide := by
  unfold write
  cases wide : isWidth layout.nameWidth with
  | true =>
    have fine : instructions.findSome? (fault? layout.nameWidth) = none := by
      rw [List.findSome?_eq_none_iff]
      intro i member
      rw [fault?_of_isWritable (writable i member), if_pos wide]
    rw [fine, if_pos rfl]
  | false =>
    obtain ⟨i, rest, rfl⟩ := List.exists_cons_of_ne_nil nonempty
    have first : fault? layout.nameWidth i = some .columnTooWide := by
      rw [fault?_of_isWritable (writable i (List.mem_cons_self ..)), wide, if_neg Bool.false_ne_true]
    simp [first]

end Report

/-- A sum of dice grows by one at least and by `most` at most with each die. -/
theorem sum_bounds {most : Int} {rolls : List Int} (bounds : ∀ v ∈ rolls, 1 ≤ v ∧ v ≤ most)
    (start : Int) :
    start + rolls.length ≤ rolls.foldl (· + ·) start ∧
      rolls.foldl (· + ·) start ≤ start + rolls.length * most := by
  induction rolls generalizing start with
  | nil => simp
  | cons v rolls ih =>
    obtain ⟨⟨lower, upper⟩, rest⟩ := List.forall_mem_cons.mp bounds
    obtain ⟨sumLower, sumUpper⟩ := ih rest (start + v)
    simp only [List.length_cons, List.foldl_cons, Nat.cast_add, Nat.cast_one]
    constructor <;> linarith

end InlineDice
