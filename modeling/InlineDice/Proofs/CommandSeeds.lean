import InlineDice.CommandLine.Arguments
import InlineDice.Proofs.PlayRuns

namespace InlineDice.CommandLine

namespace Grammar

variable {ρ : Type} {g : Grammar ρ}

/-- An option of a grammar, with a text if it takes a value. -/
structure Takes (g : Grammar ρ) (s : Switch ρ) (given : Given Text) : Prop where
  known : s ∈ g.switches
  text : ∀ set, s.effect = .value set → given ≠ .nothing

theorem named_mem {name : Text} {s : Switch ρ} (named : g.named name = some s) : s ∈ g.switches :=
  List.mem_of_find?_eq_some named

theorem given_of_keepsMark (marked : g.keepsMark = true) (text : Text) :
    g.given text = .value text := if_neg (by simp [marked])

/-- Where the mark is kept, every option that takes a value is given a text. -/
theorem unpack_takes (marked : g.keepsMark = true) {s : Switch ρ} {name attached : Text}
    {unpacked : Unpacked ρ} (known : s ∈ g.switches)
    (took : g.unpack s name attached = .ok unpacked) :
    (∀ entry ∈ unpacked.settled, g.Takes entry.1 entry.2) ∧
      ∀ last ∈ unpacked.pending, last ∈ g.switches := by
  fun_induction unpack g s name attached generalizing unpacked with
  | case1 s name set attached takes =>
    cases took
    have text : g.given attached ≠ .nothing := by
      rw [given_of_keepsMark marked]
      nofun
    exact ⟨List.forall_mem_singleton.mpr ⟨known, fun _ _ => text⟩, by simp⟩
  | case2 => cases took
  | case3 => cases took
  | case4 s name c rest next named more other =>
    rename_i ih
    have knownNext : next ∈ g.switches := by
      split at named
      · exact named_mem named
      · cases named
    have first : g.Takes s .nothing := ⟨known, fun set takes => absurd takes (other set)⟩
    simp only [more] at took
    split at took
    · cases took
      exact ⟨List.forall_mem_singleton.mpr first, by simpa using knownNext⟩
    · cases later : g.unpack next ['-', c] rest with
      | error stop =>
        rw [later] at took
        cases took
      | ok unpackedLater =>
        obtain ⟨settled, pending⟩ := ih knownNext later
        rw [later] at took
        cases took
        exact ⟨List.forall_mem_cons.mpr ⟨first, settled⟩, pending⟩

theorem mem_of_mem_allNames {entry : Switch ρ × Text} (among : entry ∈ g.allNames) :
    entry.1 ∈ g.switches := by
  obtain ⟨s, member, named⟩ := List.mem_flatMap.mp among
  obtain ⟨name, -, rfl⟩ := List.mem_map.mp named
  exact member

theorem mem_of_mem_candidates {arg name found : Text} {s : Switch ρ} {attached : Option Text}
    (member : (found, .option s name attached) ∈ g.candidates arg) : s ∈ g.switches := by
  unfold candidates at member
  split at member
  · obtain ⟨⟨other, entry⟩, among, same⟩ := List.mem_filterMap.mp member
    simp only [Option.ite_none_right_eq_some, Option.some.injEq, Prod.mk.injEq,
      Reading.option.injEq] at same
    obtain ⟨-, -, rfl, -⟩ := same
    exact mem_of_mem_allNames among
  · obtain ⟨⟨other, entry⟩, among, same⟩ := List.mem_filterMap.mp member
    dsimp only at same
    split_ifs at same <;> cases same <;> exact mem_of_mem_allNames among

theorem mem_of_classify {arg : Text} {s : Switch ρ} {name : Text} {attached : Option Text}
    (classified : g.classify arg = .ok (.option s name attached)) : s ∈ g.switches := by
  unfold classify at classified
  split at classified
  · cases classified
  · dsimp only at classified
    split at classified
    · next named =>
      cases classified
      exact named_mem named
    · cases classified
    · next named =>
      cases classified
      exact named_mem named
    · split at classified
      · next alone =>
        cases classified
        exact mem_of_mem_candidates (by rw [alone]; exact List.mem_singleton_self _)
      · split at classified <;> cases classified
      · cases classified

/-- A property of the values that no option with a text and no command takes from them. -/
structure Keeps (g : Grammar ρ) (P : ρ → Prop) : Prop where
  option : ∀ s given values after, g.Takes s given → P values →
    g.perform s given values = .ok after → P after
  command : ∃ set, g.operands = .command set ∧ ∀ name args values found, P values →
    set name args values = .ok found → P found.1

variable {P : ρ → Prop}

theorem Keeps.performAll (keeps : g.Keeps P) {settled : List (Switch ρ × Given Text)}
    (takes : ∀ entry ∈ settled, g.Takes entry.1 entry.2) {values after : ρ} (start : P values)
    (performed : g.performAll values settled = .ok after) : P after := by
  induction settled generalizing values with
  | nil =>
    cases performed
    exact start
  | cons entry settled ih =>
    obtain ⟨first, later⟩ := List.forall_mem_cons.mp takes
    obtain ⟨next, stepped, rest⟩ := except_bind_eq_ok_iff.mp performed
    exact ih later (keeps.option _ _ _ _ first start stepped) rest

theorem Keeps.performAll_concat (keeps : g.Keeps P) {settled : List (Switch ρ × Given Text)}
    (takes : ∀ entry ∈ settled, g.Takes entry.1 entry.2) {last : Switch ρ} {given : Given Text}
    (taken : g.Takes last given) {values after : ρ} (start : P values)
    (performed : g.performAll values (settled ++ [(last, given)]) = .ok after) : P after := by
  refine keeps.performAll (fun entry member => ?_) start performed
  rcases List.mem_append.mp member with earlier | atLast
  · exact takes entry earlier
  · rw [List.mem_singleton.mp atLast]
    exact taken

/-- The last option of an argument takes the argument after it if it needs a value. Then all of them are
applied, and the reading goes on behind them. -/
theorem Keeps.pending (keeps : g.Keeps P) {tail : Option (List Text)} {state : State ρ}
    {rest : List (Text × Reading ρ)} (start : P state.values) {settled : List (Switch ρ × Given Text)}
    (takes : ∀ entry ∈ settled, g.Takes entry.1 entry.2) {last : Switch ρ}
    (known : last ∈ g.switches) {found : ρ × List Text}
    (read : (match last.effect, rest with
      | .value _, (text, .operand) :: rest => do
        let values ← g.performAll state.values (settled ++ [(last, Given.value text)])
        g.readAll tail { state with values } rest
      | .value _, _ => g.refuseOption last "expected one argument".toList
      | _, rest => do
        let values ← g.performAll state.values (settled ++ [(last, Given.nothing)])
        g.readAll tail { state with values } rest) = .ok found) :
    ∃ values later, P values ∧ later <:+ rest ∧
      g.readAll tail { state with values } later = .ok found := by
  cases effect : last.effect with
  | value set =>
    rw [effect] at read
    match rest, read with
    | (text, .operand) :: rest, read =>
      obtain ⟨values, performed, more⟩ := except_bind_eq_ok_iff.mp read
      have taken : g.Takes last (.value text) := ⟨known, by simp⟩
      exact ⟨values, rest, keeps.performAll_concat takes taken start performed, List.suffix_cons _ _,
        more⟩
  | help | flag =>
    rw [effect] at read
    obtain ⟨values, performed, more⟩ := except_bind_eq_ok_iff.mp read
    exact ⟨values, rest, keeps.performAll_concat takes ⟨known, by simp [effect]⟩ start performed,
      List.suffix_rfl, more⟩

/-- One option is a step of the reading: it leaves values that are fit, and fewer arguments. -/
theorem Keeps.option_step (keeps : g.Keeps P) (marked : g.keepsMark = true)
    {tail : Option (List Text)} {state : State ρ} {rest : List (Text × Reading ρ)} {arg name : Text}
    {s : Switch ρ} {attached : Option Text} (known : s ∈ g.switches) (start : P state.values)
    {found : ρ × List Text}
    (read : g.readAll tail state ((arg, .option s name attached) :: rest) = .ok found) :
    ∃ values later, P values ∧ later <:+ rest ∧
      g.readAll tail { state with values } later = .ok found := by
  rw [readAll.eq_def] at read
  dsimp only at read
  cases attached with
  | none =>
    have noneYet : ∀ entry ∈ ([] : List (Switch ρ × Given Text)), g.Takes entry.1 entry.2 := by simp
    exact keeps.pending start noneYet known read
  | some text =>
    obtain ⟨⟨settled, pending⟩, took, next⟩ := except_bind_eq_ok_iff.mp read
    obtain ⟨takes, knownLast⟩ := unpack_takes marked known took
    cases pending with
    | none =>
      obtain ⟨values, performed, more⟩ := except_bind_eq_ok_iff.mp next
      exact ⟨values, rest, keeps.performAll takes start performed, List.suffix_rfl, more⟩
    | some last => exact keeps.pending start takes (knownLast last rfl) next

theorem Keeps.finish (keeps : g.Keeps P) {tail : Option (List Text)} {state : State ρ}
    (start : P state.values) {found : ρ × List Text} (ended : g.finish state tail = .ok found) :
    P found.1 := by
  obtain ⟨set, isCommand, command⟩ := keeps.command
  obtain ⟨values, filled, extras⟩ := state
  simp only [Grammar.finish, isCommand] at ended
  cases filled with
  | true =>
    cases ended
    exact start
  | false =>
    match tail, ended with
    | none, ended =>
      cases ended
      exact start
    | some [], ended =>
      cases ended
      exact start
    | some (arg :: rest), ended =>
      obtain ⟨result, asked, same⟩ := except_bind_eq_ok_iff.mp ended
      cases same
      exact (command _ _ _ _ start asked : P result.1)

/-- The arguments get fewer with every step, and the values stay fit up to the end. -/
theorem Keeps.readAll (keeps : g.Keeps P) (marked : g.keepsMark = true) {tail : Option (List Text)}
    {state : State ρ} {args : List (Text × Reading ρ)}
    (known : ∀ arg ∈ args, ∀ s name attached, arg.2 = .option s name attached → s ∈ g.switches)
    (start : P state.values) {found : ρ × List Text}
    (read : g.readAll tail state args = .ok found) : P found.1 := by
  obtain ⟨set, isCommand, command⟩ := keeps.command
  -- An option may take the argument after it along, so the induction is on how many are left.
  induction short : args.length using Nat.strongRecOn generalizing args state with | _ n ih =>
  subst short
  match args, known, ih, read with
  | [], _, _, read =>
    rw [readAll.eq_def] at read
    exact keeps.finish start read
  | (arg, .unknown) :: rest, known, ih, read =>
    obtain ⟨-, later⟩ := List.forall_mem_cons.mp known
    rw [readAll.eq_def] at read
    refine ih rest.length (Nat.lt_succ_self _) later ?_ read rfl
    exact start
  | (arg, .option s name attached) :: rest, known, ih, read =>
    obtain ⟨here, later⟩ := List.forall_mem_cons.mp known
    obtain ⟨values, remaining, kept, suffix, more⟩ :=
      keeps.option_step marked (here _ _ _ rfl) start read
    exact ih _ (Nat.lt_succ_of_le suffix.length_le) (fun arg member => later arg (suffix.subset member))
      kept more rfl
  | (arg, .operand) :: rest, known, ih, read =>
    obtain ⟨-, later⟩ := List.forall_mem_cons.mp known
    rw [readAll.eq_def] at read
    cases filled : state.filled with
    | true =>
      simp only [filled] at read
      refine ih rest.length (Nat.lt_succ_self _) later ?_ read rfl
      exact start
    | false =>
      simp only [filled, isCommand] at read
      obtain ⟨result, asked, same⟩ := except_bind_eq_ok_iff.mp read
      cases same
      exact (command _ _ _ _ start asked : P result.1)

theorem Keeps.parse (keeps : g.Keeps P) (marked : g.keepsMark = true) {values : ρ} (start : P values)
    {args : List Text} {found : ρ × List Text} (read : g.parse values args = .ok found) :
    P found.1 := by
  obtain ⟨readings, classified, read⟩ := except_bind_eq_ok_iff.mp read
  refine keeps.readAll marked (fun reading member s name attached same => ?_) start read
  obtain ⟨arg, -, made⟩ := forall₂_exists_left (mapM_eq_ok_iff.mp classified) reading member
  obtain ⟨kind, came, pair⟩ := except_bind_eq_ok_iff.mp made
  cases pair
  exact mem_of_classify (came.trans (congrArg _ same))

end Grammar

namespace Arguments

end Arguments

end InlineDice.CommandLine
