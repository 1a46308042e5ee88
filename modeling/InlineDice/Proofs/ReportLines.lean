import InlineDice.Proofs.PipelineRolls

namespace InlineDice

open Notation

namespace Notation

open Progress

/-- Past a separator a line stands where a token may begin, or is refused already. -/
theorem Progress.next_separator (q : Progress) {c : Char} (sep : isSeparator c = true) :
    next q c = start ∨ next q c = gap ∨ next q c = refused := by
  have noDigit := isDigit_eq_false_of_isSeparator sep
  have notD : c ≠ 'd' := by
    rintro rfl
    rw [isSeparator_d] at sep
    contradiction
  cases q <;> simp [next, opening, sep, noDigit, notD]

theorem Progress.next_stray {q : Progress} (atOpening : q = start ∨ q = gap ∨ q = refused)
    {c : Char} (bare : isSeparator c = false) (stray : opening c = refused) :
    next q c = refused := by
  rcases atOpening with rfl | rfl | rfl <;> simp [next, bare, stray]

/-- A line that begins with what no token begins with is no dice line. -/
theorem isDiceLine_cons_stray {c : Char} (bare : isSeparator c = false)
    (stray : opening c = refused) (rest : Text) : isDiceLine (c :: rest) = false := by
  unfold isDiceLine
  rw [List.foldl_cons, next_stray (.inl rfl) bare stray, foldl_refused]
  rfl

/-- Nor is a line with such a character after a separator, whatever stands before. -/
theorem isDiceLine_append_stray {sep c : Char} (separates : isSeparator sep = true)
    (bare : isSeparator c = false) (stray : opening c = refused) (before rest : Text) :
    isDiceLine (before ++ sep :: c :: rest) = false := by
  unfold isDiceLine
  rw [List.foldl_append, List.foldl_cons, List.foldl_cons,
    next_stray (next_separator _ separates) bare stray, foldl_refused]
  rfl

end Notation

namespace Text

theorem mem_join {gap : Text} {c : Char} {parts : List Text} (member : c ∈ join gap parts) :
    c ∈ gap ∨ ∃ part ∈ parts, c ∈ part := by
  fun_induction join gap parts with
  | case1 => simp at member
  | case2 part => exact .inr ⟨part, List.mem_singleton_self part, member⟩
  | case3 part next rest ih =>
    rcases List.mem_append.mp member with first | later
    · rcases List.mem_append.mp first with inPart | inGap
      · exact .inr ⟨part, List.mem_cons_self .., inPart⟩
      · exact .inl inGap
    · rcases ih later with inGap | ⟨other, among, inOther⟩
      · exact .inl inGap
      · exact .inr ⟨other, List.mem_cons_of_mem _ among, inOther⟩

theorem mem_ofInt {c : Char} {n : Int} (member : c ∈ ofInt n) : c = '-' ∨ c.isDigit = true := by
  cases n with
  | ofNat n => exact .inr (Nat.isDigit_of_mem_toDigits (by decide) (by decide) member)
  | negSucc n =>
    rcases List.mem_cons.mp member with sign | digit
    · exact .inl sign
    · exact .inr (Nat.isDigit_of_mem_toDigits (by decide) (by decide) digit)

theorem isLineEnd_iff {c : Char} : isLineEnd c = true ↔ c = '\n' ∨ c = '\r' := by
  simp [isLineEnd]

theorem not_mem_ofInt {c : Char} (ends : isLineEnd c = true) (n : Int) : c ∉ ofInt n := by
  intro member
  rcases mem_ofInt member with rfl | digit
  · exact absurd ends (by decide)
  · rcases isLineEnd_iff.mp ends with rfl | rfl <;> exact absurd digit (by decide)

theorem not_mem_join_ofInt {c : Char} (ends : isLineEnd c = true) (values : List Int) :
    c ∉ join ", ".toList (values.map ofInt) := by
  intro member
  rcases mem_join member with gap | ⟨part, written, inPart⟩
  · rcases isLineEnd_iff.mp ends with rfl | rfl <;> exact absurd gap (by decide)
  · obtain ⟨v, -, rfl⟩ := List.mem_map.mp written
    exact not_mem_ofInt ends v inPart

theorem lineFeed_not_mem_padRight {s : Text} (whole : '\n' ∉ s) (width : Int) :
    '\n' ∉ padRight width s := by
  intro member
  rcases List.mem_append.mp member with inText | inFill
  · exact whole inText
  · exact absurd (List.eq_of_mem_replicate inFill) (by decide)

end Text

namespace Report

theorem header_cases (plural : Bool) :
    header plural = "Roll:".toList ∨ header plural = "Rolls:".toList := by
  cases plural with
  | false => exact .inl rfl
  | true => exact .inr rfl

theorem header_not_isDiceLine (plural : Bool) : isDiceLine (header plural) = false := by
  cases plural <;> decide

theorem bulletLine_not_isDiceLine (width : Int) (name : Text) (rolls : List Int) :
    isDiceLine (bulletLine width name rolls) = false := by
  have dash : ∃ rest, bulletLine width name rolls = '-' :: rest := ⟨_, rfl⟩
  obtain ⟨rest, same⟩ := dash
  rw [same]
  exact isDiceLine_cons_stray (by decide) (by decide) rest

/-- The colons after the label keep it from being read, even if it looks like dice. -/
theorem aggregateLine_not_isDiceLine (width : Int) (label : Text) (aggregate : Int) :
    isDiceLine (aggregateLine width label aggregate) = false := by
  have colons : aggregateLine width label aggregate =
      ("  ".toList ++ label.padRight width) ++ ' ' :: ':' :: (": ".toList ++ Text.ofInt aggregate) := by
    simp [aggregateLine, column]
  rw [colons]
  exact isDiceLine_append_stray (by decide) (by decide) (by decide) _ _

variable {label : Text} {layout : Layout} {instructions : List Instruction}

/-- A line of a report is its header, or is about an instruction. -/
theorem mem_lines {line : Text} :
    line ∈ lines label layout instructions ↔ line = header layout.plural ∨
      ∃ i ∈ instructions, line = bulletLine layout.nameWidth i.name i.result.rolls ∨
        ∃ total ∈ i.result.aggregate, line = aggregateLine layout.nameWidth label total := by
  simp [lines, detailLines, eq_comm]

/-- No line of a report is a dice line. -/
theorem isDiceLine_of_mem_lines {line : Text} (member : line ∈ lines label layout instructions) :
    isDiceLine line = false := by
  rcases mem_lines.mp member with rfl | ⟨i, -, rfl | ⟨total, -, rfl⟩⟩
  · exact header_not_isDiceLine layout.plural
  · exact bulletLine_not_isDiceLine ..
  · exact aggregateLine_not_isDiceLine ..

/-- Lines are whole if neither the names nor the label break them. -/
theorem lineFeed_not_mem_of_mem_lines {line : Text} (wholeLabel : '\n' ∉ label)
    (wholeNames : ∀ i ∈ instructions, '\n' ∉ i.name)
    (member : line ∈ lines label layout instructions) : '\n' ∉ line := by
  rcases mem_lines.mp member with rfl | ⟨i, among, rfl | ⟨total, -, rfl⟩⟩
  · cases layout.plural <;> decide
  · have rolls := Text.not_mem_join_ofInt (by decide : Text.isLineEnd '\n' = true) i.result.rolls
    have name := Text.lineFeed_not_mem_padRight (wholeNames i among) layout.nameWidth
    simpa [bulletLine, column, name] using rolls
  · have padded := Text.lineFeed_not_mem_padRight wholeLabel layout.nameWidth
    have number := Text.not_mem_ofInt (by decide : Text.isLineEnd '\n' = true) total
    simp [aggregateLine, column, padded, number]

/-- A report without its last line feed has its lines with line feeds between them. -/
theorem render_eq_intercalate (label : Text) (layout : Layout) (instructions : List Instruction) :
    render label layout instructions =
      ['\n'].intercalate (lines label layout instructions) ++ ['\n'] := by
  have terminated : ∀ first (rest : List Text), (first :: rest).flatMap (· ++ ['\n']) =
      ['\n'].intercalate (first :: rest) ++ ['\n'] := by
    intro first rest
    induction rest generalizing first with
    | nil => simp
    | cons next rest ih =>
      rw [List.flatMap_cons, ih next]
      simp
  exact terminated _ _

end Report

/-- A name as tokens have it: something, without a blank. -/
def IsName (name : Text) : Prop := name ≠ [] ∧ ∀ c ∈ name, isBlank c = false

instance (name : Text) : Decidable (IsName name) :=
  @instDecidableAnd _ _ _ (List.decidableBAll _ name)

theorem IsName.not_mem {name : Text} (isName : IsName name) {c : Char} (blank : isBlank c = true) :
    c ∉ name := by
  intro member
  rw [isName.2 c member] at blank
  cases blank

namespace Pipeline

variable {p : Pipeline}

theorem isSolid_name_of_tokens {text : Text} {tokens : List Token}
    (read : p.tokens text = .ok tokens) : ∀ token ∈ tokens, IsSolid token.name := by
  intro token member
  obtain ⟨parsed, -⟩ := tokens_eq_ok_iff.mp read
  obtain ⟨t, among, parsedFrom⟩ := forall₂_exists_left (mapM_eq_ok_iff.mp parsed) token member
  have solid := isSolid_of_mem_tokenize among
  obtain ⟨parts, count, faces, -, -, -, -, -, -, rfl⟩ := Token.parse_eq_ok_iff.mp parsedFrom
  dsimp only
  split
  · exact ⟨List.cons_ne_nil _ _, List.forall_mem_cons.mpr ⟨by decide, solid.2⟩⟩
  · exact solid

theorem isName_of_tokens {text : Text} {tokens : List Token}
    (read : p.tokens text = .ok tokens) : ∀ token ∈ tokens, IsName token.name := by
  intro token member
  have solid := isSolid_name_of_tokens read token member
  refine ⟨solid.1, fun c inName => ?_⟩
  by_contra blank
  have separates := isSeparator_of_isBlank (Bool.eq_true_of_not_eq_false blank)
  rw [solid.2 c inName] at separates
  cases separates

end Pipeline

end InlineDice
