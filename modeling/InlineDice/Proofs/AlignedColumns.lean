import InlineDice.Proofs.RollCourse

namespace InlineDice

open Notation

/-- The length of the longest name. -/
def longestName (tokens : List Token) : Nat :=
  tokens.foldr (fun token longest => max token.name.length longest) 0

theorem longestName_le_iff {tokens : List Token} {n : Nat} :
    longestName tokens ≤ n ↔ ∀ token ∈ tokens, token.name.length ≤ n := by
  induction tokens with
  | nil => simp [longestName]
  | cons token tokens ih =>
    rw [List.forall_mem_cons, ← ih]
    exact max_le_iff

/-- The names of a report stand in a column for the longest of them, or for the floor if this is
longer. -/
theorem Pipeline.layout_nameWidth {p : Pipeline} {tokens : List Token} (nonempty : tokens ≠ []) :
    (p.layout tokens).nameWidth = (max p.nameWidthFloor.toNat (longestName tokens) : Nat) := by
  obtain ⟨above, wide, tight⟩ := p.nameWidth_spec tokens
  have shorter : ∀ token ∈ tokens, token.name.length ≤ longestName tokens :=
    longestName_le_iff.mp le_rfl
  have longest : longestName tokens ≤ (p.layout tokens).nameWidth.toNat := by
    refine longestName_le_iff.mpr fun token member => ?_
    have := wide token member
    omega
  obtain ⟨first, member⟩ := List.exists_mem_of_ne_nil tokens nonempty
  have positive := wide first member
  rcases tight with same | ⟨token, among, same⟩
  · omega
  · have := shorter token among
    omega

namespace Report

/-- In a line there is an entry after a mark, then nothing but spaces, and the separator `width`
characters after the mark. -/
def IsAligned (mark entry : Text) (width : Nat) (line : Text) : Prop :=
  ∃ fill value, entry.length + fill = width ∧
    line = mark ++ entry ++ (List.replicate fill ' ' ++ (" :: ".toList ++ value))

variable {mark entry line : Text} {width other : Nat}

theorem IsAligned.length_le (aligned : IsAligned mark entry width line) : entry.length ≤ width := by
  obtain ⟨fill, -, length, -⟩ := aligned
  omega

/-- The spaces before a separator end at its colons. -/
theorem takeWhile_separator (fill : Nat) (value : Text) :
    (List.replicate fill ' ' ++ (" :: ".toList ++ value)).takeWhile (· = ' ') =
      List.replicate fill ' ' ++ [' '] := by
  have spaces : ∀ c ∈ List.replicate fill ' ', decide (c = ' ') = true := fun c member =>
    decide_eq_true (List.eq_of_mem_replicate member)
  rw [List.takeWhile_append_of_pos spaces]
  rfl

/-- A separator stands in one place only. -/
theorem IsAligned.unique (aligned : IsAligned mark entry width line)
    (again : IsAligned mark entry other line) : width = other := by
  obtain ⟨fill, value, rfl, written⟩ := aligned
  obtain ⟨more, rest, rfl, writtenAgain⟩ := again
  -- The entry may hold separators of its own, so the spaces are counted from where it ends.
  have same := List.append_cancel_left (written.symm.trans writtenAgain)
  have spaces := congrArg (fun s => (List.takeWhile (· = ' ') s).length) same
  simp only [takeWhile_separator, List.length_append, List.length_replicate,
    Nat.add_right_cancel_iff] at spaces
  rw [spaces]

/-- A column is as wide as it is asked to be, or as its entry if this is longer. -/
theorem isAligned_column (mark : String) (entry value : Text) (width : Nat) :
    IsAligned mark.toList entry (max width entry.length) (column mark width entry ++ value) :=
  ⟨((width : Int) - entry.length).toNat, value, by omega, by simp [column, Text.padRight]⟩

theorem isAligned_bulletLine {name : Text} (fits : name.length ≤ width) (rolls : List Int) :
    IsAligned "- ".toList name width (bulletLine width name rolls) := by
  have aligned := isAligned_column "- " name
    ("[ ".toList ++ Text.join ", ".toList (rolls.map Text.ofInt) ++ " ]".toList) width
  rw [max_eq_left fits] at aligned
  simpa [bulletLine] using aligned

theorem isAligned_aggregateLine (label : Text) (width : Nat) (total : Int) :
    IsAligned "  ".toList label (max width label.length) (aggregateLine width label total) :=
  isAligned_column "  " label (Text.ofInt total) width

end Report

/-- In the lines of an instruction the separators stand in one column. -/
def Instruction.LinesUp (label : Text) (width : Int) (column : Nat) (i : Instruction) : Prop :=
  Report.IsAligned "- ".toList i.name column (Report.bulletLine width i.name i.result.rolls) ∧
    ∀ total ∈ i.result.aggregate,
      Report.IsAligned "  ".toList label column (Report.aggregateLine width label total)

theorem Instruction.linesUp_iff {i : Instruction} {label : Text} {width column : Nat}
    (fits : i.name.length ≤ width) :
    i.LinesUp label width column ↔
      column = width ∧ (label.length ≤ width ∨ i.result.aggregate = none) := by
  have bullet := Report.isAligned_bulletLine fits i.result.rolls
  constructor
  · rintro ⟨aligned, totals⟩
    obtain rfl := aligned.unique bullet
    refine ⟨rfl, ?_⟩
    cases aggregate : i.result.aggregate with
    | none => exact .inr rfl
    | some total => exact .inl (totals total aggregate).length_le
  · rintro ⟨rfl, short | absent⟩
    · refine ⟨bullet, fun total _ => ?_⟩
      have aligned := Report.isAligned_aggregateLine label column total
      rwa [max_eq_left short] at aligned
    · exact ⟨bullet, by simp [absent]⟩

theorem forall_linesUp_iff {instructions : List Instruction} (nonempty : instructions ≠ [])
    {label : Text} {width column : Nat} (fits : ∀ i ∈ instructions, i.name.length ≤ width) :
    (∀ i ∈ instructions, i.LinesUp label width column) ↔
      column = width ∧
        (label.length ≤ width ∨ ∀ i ∈ instructions, i.result.aggregate = none) := by
  constructor
  · intro linesUp
    have each : ∀ i ∈ instructions,
        column = width ∧ (label.length ≤ width ∨ i.result.aggregate = none) :=
      fun i member => (Instruction.linesUp_iff (fits i member)).mp (linesUp i member)
    obtain ⟨first, member⟩ := List.exists_mem_of_ne_nil instructions nonempty
    refine ⟨(each first member).1, ?_⟩
    by_cases short : label.length ≤ width
    · exact .inl short
    · exact .inr fun i member => (each i member).2.resolve_left short
  · rintro ⟨same, fine⟩ i member
    exact (Instruction.linesUp_iff (fits i member)).mpr
      ⟨same, fine.imp_right fun absent => absent i member⟩

/-- In every report one column has room for all names and the floor, and each bullet line has its
separator right after this column. So has each aggregate line unless the label is longer: then its
separator comes after the whole label, and the lines stand in no common column. -/
theorem details_aligned_iff_label_fits {σ : Type} [RandomSource σ] {p : Pipeline}
    {text report : Text} {source : σ} (ran : ((p.roll text).run source).outcome = .ok report) :
    ∃ (tokens : List Token) (instructions : List Instruction) (header : Text) (width : Nat),
      p.tokens text = .ok tokens ∧
      ((p.rollTokens tokens).run source).outcome = .ok instructions ∧
      instructions.map Instruction.name = tokens.map Token.name ∧
      width = max p.nameWidthFloor.toNat (longestName tokens) ∧
      (header = "Roll:".toList ∨ header = "Rolls:".toList) ∧
      report = (header :: instructions.flatMap (Report.detailLines p.label width)).flatMap
        (· ++ ['\n']) ∧
      (∀ i ∈ instructions,
        Report.IsAligned "- ".toList i.name width
          (Report.bulletLine width i.name i.result.rolls) ∧
        ∀ total ∈ i.result.aggregate,
          Report.IsAligned "  ".toList p.label (max width p.label.length)
            (Report.aggregateLine width p.label total)) ∧
      ∀ column, (∀ i ∈ instructions, i.LinesUp p.label width column) ↔
        column = width ∧
          (p.label.length ≤ width ∨ ∀ i ∈ instructions, i.result.aggregate = none) := by
  obtain ⟨tokens, instructions, read, rolled, names, rendered⟩ := Pipeline.exists_instructions ran
  obtain ⟨-, nonempty⟩ := Pipeline.tokens_eq_ok_iff.mp read
  have some : instructions ≠ [] := by
    intro empty
    rw [empty] at names
    exact nonempty (List.map_eq_nil_iff.mp names.symm)
  have fits : ∀ i ∈ instructions,
      i.name.length ≤ max p.nameWidthFloor.toNat (longestName tokens) := by
    intro i member
    have named : i.name ∈ tokens.map Token.name := names ▸ List.mem_map_of_mem member
    obtain ⟨token, among, same⟩ := List.mem_map.mp named
    rw [← same]
    exact le_max_of_le_right (longestName_le_iff.mp le_rfl token among)
  refine ⟨tokens, instructions, Report.header (p.layout tokens).plural, _, read, rolled, names, rfl,
    Report.header_cases _, ?_, ?_, fun column => forall_linesUp_iff some fits⟩
  · rw [rendered, Report.render, Report.lines, Pipeline.layout_nameWidth nonempty]
  · intro i member
    exact ⟨Report.isAligned_bulletLine (fits i member) _,
      fun total _ => Report.isAligned_aggregateLine p.label _ total⟩

theorem details_aligned_iff_label_fits_floor :
    let p : Pipeline := ⟨.builtin, 6, "total".toList⟩
    let source : Script := .once [3, 4, 2]
    ((p.roll "2d6+, d4".toList).run source).outcome =
      .ok "Rolls:\n- 2d6+   :: [ 3, 4 ]\n  total  :: 7\n- 1d4    :: [ 2 ]\n".toList ∧
    ∃ instructions : List Instruction,
      instructions.map Instruction.name = ["2d6+".toList, "1d4".toList] ∧
      ∀ i ∈ instructions, i.LinesUp p.label 6 6 := by
  intro p source
  have ran : ((p.roll "2d6+, d4".toList).run source).outcome =
      .ok "Rolls:\n- 2d6+   :: [ 3, 4 ]\n  total  :: 7\n- 1d4    :: [ 2 ]\n".toList :=
    toOption_eq_some_iff.mp (by decide +kernel)
  have read : p.tokens "2d6+, d4".toList =
      .ok [⟨"2d6+".toList, 2, 6, some '+'⟩, ⟨"1d4".toList, 1, 4, none⟩] := by rfl
  obtain ⟨tokens, instructions, header, width, again, -, names, room, -, -, -, aligned⟩ :=
    details_aligned_iff_label_fits ran
  rw [read] at again
  injection again with again
  subst again
  have six : width = 6 := room.trans (by decide)
  subst six
  exact ⟨ran, instructions, names, (aligned 6).mpr ⟨rfl, .inl (by decide)⟩⟩

/-- A label of five characters under a name of four sticks out of the column of names. -/
theorem long_label_misaligned :
    let p : Pipeline := ⟨.builtin, 0, "total".toList⟩
    let source : Script := .once [3, 4]
    ((p.roll "2d6+".toList).run source).outcome =
      .ok "Rolls:\n- 2d6+ :: [ 3, 4 ]\n  total :: 7\n".toList ∧
    ¬∃ column,
      Report.IsAligned "- ".toList "2d6+".toList column "- 2d6+ :: [ 3, 4 ]".toList ∧
      Report.IsAligned "  ".toList "total".toList column "  total :: 7".toList := by
  intro p source
  refine ⟨toOption_eq_some_iff.mp (by decide +kernel), ?_⟩
  rintro ⟨column, bullet, aggregate⟩
  have four : Report.IsAligned "- ".toList "2d6+".toList 4 "- 2d6+ :: [ 3, 4 ]".toList :=
    ⟨0, "[ 3, 4 ]".toList, rfl, rfl⟩
  have room := aggregate.length_le
  rw [bullet.unique four] at room
  exact absurd room (by decide)

end InlineDice
