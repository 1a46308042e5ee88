import InlineDice.Proofs.JoinedTokens
import InlineDice.Proofs.ReportLines

namespace InlineDice

open Notation

namespace Text

theorem ofInt_ne_nil (n : Int) : ofInt n ≠ [] := by
  cases n with
  | ofNat n => exact Nat.toDigits_ne_nil
  | negSucc n => exact List.cons_ne_nil _ _

theorem ofInt_isSolid (n : Int) : IsSolid (ofInt n) := by
  refine ⟨ofInt_ne_nil n, ?_⟩
  intro c member
  rcases mem_ofInt member with rfl | digit
  · decide
  · exact isSeparator_eq_false_of_isDigit digit

theorem tokenize_join {parts : List Text} (solid : ∀ part ∈ parts, IsSolid part) {rest : Text}
    (boundary : IsBoundary rest) :
    tokenize (join ", ".toList parts ++ rest) = parts ++ tokenize rest := by
  have gap : IsGap ", ".toList := by decide
  have joined := (isJoined_join gap parts).tokenize_eq
  rw [tokenize_append_boundary boundary, joined, flatMap_tokenize_of_isSolid solid]

end Text

namespace Report

/-- The integer that a numeral stands for. -/
def readInt : Text → Int
  | '-' :: digits => -(Nat.ofDigitChars 10 digits 0 : Int)
  | digits => Nat.ofDigitChars 10 digits 0

/-- Up to its first space a line names its instruction, and between the brackets it has the rolls. -/
def readBullet (line : Text) : Text × List Int :=
  let entry := line.drop 2
  (entry.takeWhile (· ≠ ' '),
    (((tokenize (entry.dropWhile (· ≠ ' '))).drop 2).dropLast).map readInt)

/-- The aggregate stands after the last space of its line, whatever the label. -/
def readAggregate (line : Text) : Int := readInt (line.rtakeWhile (· ≠ ' '))

/-- Reads a line above others that were read. An aggregate waits for the line above it. -/
def readLine (line : Text) (below : Option Int × List Instruction) :
    Option Int × List Instruction :=
  if line.head? = some ' ' then (some (readAggregate line), below.2)
  else (none, ⟨(readBullet line).1, (readBullet line).2, below.1⟩ :: below.2)

/-- What a report is about: more than one die or not, and the instructions it was written for. -/
def read (report : Text) : Bool × List Instruction :=
  match report.splitOn '\n' with
  | [] => (false, [])
  | header :: details =>
    (header == Report.header true, (details.dropLast.foldr readLine (none, [])).2)

theorem readInt_ofInt (n : Int) : readInt (Text.ofInt n) = n := by
  cases n with
  | ofNat n =>
    have unsigned : ∀ digits, Text.ofInt n ≠ '-' :: digits := by
      intro digits signed
      have member : '-' ∈ Nat.toDigits 10 n := by
        have first : '-' ∈ Text.ofInt n := by rw [signed]; exact List.mem_cons_self ..
        exact first
      exact absurd (Nat.isDigit_of_mem_toDigits (by decide) (by decide) member) (by decide)
    rw [readInt]
    · exact congrArg Int.ofNat Nat.ofDigitChars_ten_toDigits
    · exact unsigned
  | negSucc n =>
    rw [Text.ofInt, readInt, Nat.ofDigitChars_ten_toDigits]
    rfl

section

variable {name rest : Text}

theorem spaces_cons (n : Nat) (rest : Text) :
    ∃ more, List.replicate n ' ' ++ ' ' :: rest = ' ' :: more := by
  cases n with
  | zero => exact ⟨rest, rfl⟩
  | succ n => exact ⟨_, rfl⟩

theorem takeWhile_padded (whole : ' ' ∉ name) (n : Nat) :
    (name ++ (List.replicate n ' ' ++ ' ' :: rest)).takeWhile (· ≠ ' ') = name ∧
      (name ++ (List.replicate n ' ' ++ ' ' :: rest)).dropWhile (· ≠ ' ') =
        List.replicate n ' ' ++ ' ' :: rest := by
  have kept : ∀ c ∈ name, (decide (c ≠ ' ')) = true := by
    intro c member
    exact decide_eq_true (ne_of_mem_of_not_mem member whole)
  obtain ⟨more, same⟩ := spaces_cons n rest
  rw [List.takeWhile_append_of_pos kept, List.dropWhile_append_of_pos kept, same]
  simp

end

/-- After the name a line has two colons, and its rolls as words between two brackets. -/
theorem tokenize_rolls (n : Nat) (rolls : List Int) :
    tokenize (List.replicate n ' ' ++ ' ' :: (":: [ ".toList ++
        (Text.join ", ".toList (rolls.map Text.ofInt) ++ " ]".toList))) =
      "::".toList :: "[".toList :: (rolls.map Text.ofInt ++ ["]".toList]) := by
  have space : isSeparator ' ' = true := by decide
  have fill : ∀ c ∈ List.replicate n ' ', isSeparator c = true := by
    intro c member
    rw [List.eq_of_mem_replicate member]
    exact space
  have colons : IsSolid "::".toList :=
    ⟨by decide, List.forall_mem_cons.mpr ⟨by decide, List.forall_mem_singleton.mpr (by decide)⟩⟩
  have bracket : IsSolid "[".toList := ⟨by decide, List.forall_mem_singleton.mpr (by decide)⟩
  have numerals : ∀ part ∈ rolls.map Text.ofInt, IsSolid part := by
    intro part member
    obtain ⟨n, -, rfl⟩ := List.mem_map.mp member
    exact Text.ofInt_isSolid n
  have closing : tokenize (Text.join ", ".toList (rolls.map Text.ofInt) ++ " ]".toList) =
      rolls.map Text.ofInt ++ ["]".toList] := by
    have boundary : IsBoundary " ]".toList := isBoundary_cons.mpr space
    rw [Text.tokenize_join numerals boundary]
    rfl
  have opening : ∀ rest, ":: [ ".toList ++ rest =
      "::".toList ++ ' ' :: ("[".toList ++ ' ' :: rest) := fun _ => rfl
  rw [tokenize_append_left fill, tokenize_cons_separator space, opening,
    tokenize_run colons (isBoundary_cons.mpr space), tokenize_cons_separator space,
    tokenize_run bracket (isBoundary_cons.mpr space), tokenize_cons_separator space, closing]

theorem readBullet_bulletLine {name : Text} (whole : ' ' ∉ name) (width : Int)
    (rolls : List Int) : readBullet (bulletLine width name rolls) = (name, rolls) := by
  have entry : (bulletLine width name rolls).drop 2 =
      name ++ (List.replicate (width - name.length).toNat ' ' ++ ' ' :: (":: [ ".toList ++
        (Text.join ", ".toList (rolls.map Text.ofInt) ++ " ]".toList))) := by
    simp [bulletLine, column, Text.padRight]
  unfold readBullet
  rw [entry]
  dsimp only
  rw [(takeWhile_padded whole _).1, (takeWhile_padded whole _).2, tokenize_rolls]
  simp [readInt_ofInt, Function.comp_def]

theorem readAggregate_aggregateLine (width : Int) (label : Text) (total : Int) :
    readAggregate (aggregateLine width label total) = total := by
  -- Read from its end, as the label may hold spaces of its own.
  have spaceless : ∀ c ∈ Text.ofInt total, decide (c ≠ ' ') = true := by
    intro c member
    refine decide_eq_true ?_
    rintro rfl
    exact absurd ((Text.ofInt_isSolid total).2 ' ' member) (by decide)
  have line : aggregateLine width label total =
      ("  ".toList ++ label.padRight width ++ " ::".toList) ++ ' ' :: Text.ofInt total := by
    simp [aggregateLine, column]
  have last : (aggregateLine width label total).rtakeWhile (· ≠ ' ') = Text.ofInt total := by
    rw [line, List.rtakeWhile, List.reverse_append, List.reverse_cons, List.append_assoc,
      List.takeWhile_append_of_pos (by simpa using spaceless)]
    simp
  rw [readAggregate, last, readInt_ofInt]

theorem foldr_readLine_detailLines (label : Text) (width : Int) {i : Instruction}
    (whole : ' ' ∉ i.name) (below : List Instruction) :
    (detailLines label width i).foldr readLine (none, below) = (none, i :: below) := by
  have bullet : ∀ aggregate, readLine (bulletLine width i.name i.result.rolls) (aggregate, below) =
      (none, ⟨i.name, i.result.rolls, aggregate⟩ :: below) := by
    intro aggregate
    rw [readLine, if_neg (by simp [bulletLine, column]), readBullet_bulletLine whole]
  unfold detailLines
  rw [List.foldr_cons]
  cases total : i.result.aggregate with
  | none =>
    have alone : i = ⟨i.name, i.result.rolls, none⟩ := by rw [← total]
    rw [Option.map_none, Option.toList_none, List.foldr_nil, bullet, ← alone]
  | some n =>
    have summed : i = ⟨i.name, i.result.rolls, some n⟩ := by rw [← total]
    have aggregate : readLine (aggregateLine width label n) (none, below) = (some n, below) := by
      rw [readLine, if_pos (by simp [aggregateLine, column]), readAggregate_aggregateLine]
    rw [Option.map_some, Option.toList_some, List.foldr_cons, List.foldr_nil, aggregate, bullet,
      ← summed]

theorem foldr_readLine_lines (label : Text) (width : Int) {instructions : List Instruction}
    (whole : ∀ i ∈ instructions, ' ' ∉ i.name) :
    (instructions.flatMap (detailLines label width)).foldr readLine (none, []) =
      (none, instructions) := by
  induction instructions with
  | nil => rfl
  | cons i instructions ih =>
    obtain ⟨first, later⟩ := List.forall_mem_cons.mp whole
    rw [List.flatMap_cons, List.foldr_append, ih later, foldr_readLine_detailLines label width first]

variable {label : Text} {layout : Layout} {instructions : List Instruction}

theorem splitOn_render (wholeLabel : '\n' ∉ label) (named : ∀ i ∈ instructions, IsName i.name) :
    (render label layout instructions).splitOn '\n' = lines label layout instructions ++ [[]] := by
  have whole : ∀ line ∈ lines label layout instructions, '\n' ∉ line := fun line member =>
    lineFeed_not_mem_of_mem_lines wholeLabel (fun i among => (named i among).not_mem (by decide))
      member
  have some : lines label layout instructions ≠ [] := List.cons_ne_nil _ _
  rw [render_eq_intercalate, List.splitOn_append_cons_self, List.splitOn_intercalate '\n' whole some]
  rfl

theorem read_render (wholeLabel : '\n' ∉ label) (named : ∀ i ∈ instructions, IsName i.name) :
    read (render label layout instructions) = (layout.plural, instructions) := by
  have whole : ∀ i ∈ instructions, ' ' ∉ i.name := fun i member =>
    (named i member).not_mem (by decide)
  have header : (Report.header layout.plural == Report.header true) = layout.plural := by
    cases layout.plural <;> decide
  unfold read
  rw [splitOn_render wholeLabel named, lines, List.cons_append]
  dsimp only
  rw [List.dropLast_concat, foldr_readLine_lines label layout.nameWidth whole, header]

/-- A report loses nothing. Reports of the same text, whatever their widths, have the same header and
come from the same names, rolls and aggregates in the same order, which can be read from the text. -/
theorem report_loses_nothing (wholeLabel : '\n' ∉ label) {other : Layout}
    {others : List Instruction} (named : ∀ i ∈ instructions, IsName i.name)
    (namedOthers : ∀ i ∈ others, IsName i.name) {report : Text}
    (written : write label layout instructions = .ok report)
    (writtenOther : write label other others = .ok report) :
    (layout.plural = other.plural ∧ instructions = others) ∧
      read report = (layout.plural, instructions) := by
  have first : read report = (layout.plural, instructions) := by
    rw [← (write_eq_ok_iff.mp written).2]
    exact read_render wholeLabel named
  have second : read report = (other.plural, others) := by
    rw [← (write_eq_ok_iff.mp writtenOther).2]
    exact read_render wholeLabel namedOthers
  exact ⟨Prod.mk.inj (first.symm.trans second), first⟩

/-- Instructions with a negative aggregate, and with no rolls under a name that ends in a dash. -/
def oddInstructions : List Instruction :=
  [⟨"2d20+".toList, ⟨[-3, 20], some (-7)⟩⟩, ⟨"1d6-".toList, ⟨[], none⟩⟩]

theorem report_loses_nothing_two_widths :
    let label := "- 1d6 :: [ 1 ]".toList
    '\n' ∉ label ∧ (∀ i ∈ oddInstructions, IsName i.name) ∧
      ∃ report, write label ⟨-1, true⟩ oddInstructions = .ok report ∧
        write label ⟨4, true⟩ oddInstructions = .ok report ∧
        read report = (true, oddInstructions) := by
  intro label
  have wholeLabel : '\n' ∉ label := by decide
  have named : ∀ i ∈ oddInstructions, IsName i.name := by decide
  have narrow : (write label ⟨-1, true⟩ oddInstructions).toBool = true := by decide +kernel
  have wide : (write label ⟨4, true⟩ oddInstructions).toBool = true := by decide +kernel
  obtain ⟨report, narrow⟩ := toBool_eq_true_iff.mp narrow
  obtain ⟨other, wide⟩ := toBool_eq_true_iff.mp wide
  have same : other = report := by
    rw [← (write_eq_ok_iff.mp wide).2, ← (write_eq_ok_iff.mp narrow).2]
    decide
  rw [same] at wide
  exact ⟨wholeLabel, named, report, narrow, wide,
    (report_loses_nothing wholeLabel named named narrow wide).2⟩

end Report

end InlineDice
