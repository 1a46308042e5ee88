import InlineDice.Proofs.DocumentRuns

namespace InlineDice

open Notation

namespace Play

variable {σ η α β : Type}

theorem run_beside (play : Play σ α) (source : σ) (host : η) :
    play.beside.run (source, host) =
      ⟨(play.run source).outcome, ((play.run source).source, host), (play.run source).draws,
        (play.run source).notes⟩ := rfl

theorem beside_pure (a : α) : (pure a : Play σ α).beside = (pure a : Play (σ × η) α) := rfl

theorem beside_map (f : α → β) (play : Play σ α) :
    (f <$> play).beside = (f <$> play.beside : Play (σ × η) β) := rfl

/-- What a host does that only keeps all it is handed. -/
def keep (a : α) : Play (σ × List α) Unit := fun (source, kept) =>
  ⟨.ok (), (source, kept ++ [a]), [], []⟩

end Play

namespace Pipeline

variable {σ : Type} [RandomSource σ] {p : Pipeline} {strict : Bool} {line : Text}

section

variable {η : Type} {replace : Text → Play (σ × η) Unit}

theorem replaceLineBy_dice (dice : isDiceLine line = true) :
    p.replaceLineBy replace strict line =
      (p.roll line).beside >>= fun report => (fun _ => true) <$> replace report := by
  unfold replaceLineBy
  rw [transform_of_isDiceLine dice, Play.beside_map]
  simp only [bind_map_left]
  exact bind_congr fun report => (map_eq_pure_bind _ (replace report)).symm

theorem replaceLineBy_other (other : isDiceLine line = false) :
    p.replaceLineBy replace strict line =
      if strict then .fail (.malformedLine line) else pure false := by
  unfold replaceLineBy
  rw [transform_of_not_isDiceLine other, Play.beside_pure]
  simp only [pure_bind]

/-- A host is handed the report of a run that ends well, once the run is over. -/
theorem run_replaceLineBy_of_ok (dice : isDiceLine line = true) {source rest : σ} {report : Text}
    {draws : List Draw} {notes : List Note}
    (ran : (p.roll line).run source = ⟨.ok report, rest, draws, notes⟩) (host : η) :
    (p.replaceLineBy replace strict line).run (source, host) =
      (⟨.ok report, (rest, host), draws, notes⟩ : Played (σ × η) Text).followedBy
        (((fun _ => true) <$> replace report).run (rest, host)) := by
  have besides := Play.run_beside (p.roll line) source host
  rw [ran] at besides
  rw [replaceLineBy_dice dice, Play.run_bind_of_run besides]

/-- A run that fails leaves the host as it was. -/
theorem run_replaceLineBy_of_error (dice : isDiceLine line = true) {source rest : σ} {fault : Fault}
    {draws : List Draw} {notes : List Note}
    (ran : (p.roll line).run source = ⟨.error fault, rest, draws, notes⟩) (host : η) :
    (p.replaceLineBy replace strict line).run (source, host) =
      ⟨.error fault, (rest, host), draws, notes⟩ := by
  have besides := Play.run_beside (p.roll line) source host
  rw [ran] at besides
  rw [replaceLineBy_dice dice, Play.run_bind_of_error (by rw [besides]), besides]
  rfl

end

/-- A host that keeps what it is handed ends up with the report that is to replace the line, and with
nothing else. -/
theorem run_replaceLineBy_keep (p : Pipeline) (strict : Bool) (line : Text) (source : σ)
    (kept : List Text) :
    (p.replaceLineBy Play.keep strict line).run (source, kept) =
      let played := (p.replaceLine strict line).run source
      ⟨played.outcome.map Option.isSome,
        (played.source, kept ++ played.outcome.toOption.join.toList), played.draws,
        played.notes⟩ := by
  cases dice : isDiceLine line with
  | false =>
    rw [replaceLine_other dice, replaceLineBy_other dice]
    cases strict <;> simp [Play.run_pure, Play.fail, Play.run_ofExcept, Except.map, Except.toOption]
  | true =>
    rw [replaceLine_dice dice]
    rcases ran : (p.roll line).run source with ⟨fault | report, rest, draws, notes⟩
    · rw [run_replaceLineBy_of_error dice ran, Play.run_map_of_failed ran]
      simp [Except.map, Except.toOption]
    · rw [run_replaceLineBy_of_ok dice ran, Play.run_map_of_run ran]
      simp [Played.followedBy, Play.keep, Play.run_map, Play.map, Except.map, Except.toOption]

/-- All ways into a pipeline agree on a line. A dice line is rolled as it stands, also where only the
span without the separators around it is passed on: a host is handed that very report, once, or the
fault is the same and the host is left alone. Any other line costs no draw and reaches no host. -/
theorem entries_agree (p : Pipeline) (strict : Bool) (line : Text) :
    ((recognize line).isSome = true →
      (p.transform line : Play σ (Option Text)) = some <$> p.roll line ∧
      (p.replaceLine strict line : Play σ (Option Text)) = some <$> p.roll line ∧
      ∀ (η : Type) (replace : Text → Play (σ × η) Unit) (source : σ) (host : η)
        (rest : σ) (draws : List Draw) (notes : List Note),
        (∀ report, (p.roll line).run source = ⟨.ok report, rest, draws, notes⟩ →
          (p.replaceLineBy replace strict line).run (source, host) =
            (⟨.ok report, (rest, host), draws, notes⟩ : Played (σ × η) Text).followedBy
              (((fun _ => true) <$> replace report).run (rest, host))) ∧
        ∀ fault, (p.roll line).run source = ⟨.error fault, rest, draws, notes⟩ →
          (p.replaceLineBy replace strict line).run (source, host) =
            ⟨.error fault, (rest, host), draws, notes⟩) ∧
    (recognize line = none →
      (p.transform line : Play σ (Option Text)) = pure none ∧
      (p.replaceLine strict line : Play σ (Option Text)) =
        (if strict then .fail (.malformedLine line) else pure none) ∧
      ∀ (η : Type) (replace : Text → Play (σ × η) Unit), p.replaceLineBy replace strict line =
        if strict then .fail (.malformedLine line) else pure false) ∧
    ∀ (source : σ) (kept : List Text),
      (p.replaceLineBy Play.keep strict line).run (source, kept) =
        let played := (p.replaceLine strict line).run source
        ⟨played.outcome.map Option.isSome,
          (played.source, kept ++ played.outcome.toOption.join.toList), played.draws,
          played.notes⟩ := by
  refine ⟨fun matched => ?_, fun unmatched => ?_, run_replaceLineBy_keep p strict line⟩
  · rw [recognize_isSome] at matched
    refine ⟨transform_of_isDiceLine matched, replaceLine_dice matched, ?_⟩
    intro η replace source host rest draws notes
    exact ⟨fun report ran => run_replaceLineBy_of_ok matched ran host,
      fun fault ran => run_replaceLineBy_of_error matched ran host⟩
  · have other := recognize_eq_none_iff.mp unmatched
    exact ⟨transform_of_not_isDiceLine other, replaceLine_other other,
      fun η replace => replaceLineBy_other other⟩

theorem entries_agree_on_three_lines :
    (∃ report : Text, ((default.roll " 2d6, d4+".toList).run Lowest.lowest).outcome = .ok report ∧
      ((default.replaceLineBy Play.keep true " 2d6, d4+".toList).run (Lowest.lowest, [])).outcome =
        .ok true ∧
      ((default.replaceLineBy Play.keep true " 2d6, d4+".toList).run (Lowest.lowest, [])).source =
        (.lowest, [report])) ∧
    (default.replaceLineBy Play.keep true "2d6!".toList).run (Lowest.lowest, []) =
      ⟨.error (.unknownProcessor (.text ['!'])), (.lowest, []), [], []⟩ ∧
    (default.replaceLineBy Play.keep true "roll 2d6 please".toList : Play (Lowest × List Text) Bool) =
      .fail (.malformedLine "roll 2d6 please".toList) := by
  have dice : (recognize " 2d6, d4+".toList).isSome = true := by decide
  have unknown : (recognize "2d6!".toList).isSome = true := by decide
  have prose : recognize "roll 2d6 please".toList = none := by decide
  have rolled : ((default.roll " 2d6, d4+".toList).run Lowest.lowest).outcome.toBool = true := by
    decide +kernel
  have failed : (default.roll "2d6!".toList).run Lowest.lowest =
      ⟨.error (.unknownProcessor (.text ['!'])), .lowest, [], []⟩ := by rfl
  obtain ⟨onDice, -, -⟩ := entries_agree (σ := Lowest) default true " 2d6, d4+".toList
  obtain ⟨onUnknown, -, -⟩ := entries_agree (σ := Lowest) default true "2d6!".toList
  obtain ⟨-, onProse, -⟩ := entries_agree (σ := Lowest) default true "roll 2d6 please".toList
  have untouched := ((onUnknown unknown).2.2 _ Play.keep _ [] _ _ _).2 _ failed
  rcases ran : (default.roll " 2d6, d4+".toList).run Lowest.lowest with ⟨outcome, rest, draws, notes⟩
  rw [ran] at rolled
  obtain ⟨report, rfl⟩ := toBool_eq_true_iff.mp rolled
  have handed := ((onDice dice).2.2 _ Play.keep _ [] _ _ _).1 report ran
  cases rest
  refine ⟨⟨report, rfl, ?_, ?_⟩, untouched, (onProse prose).2.2 _ Play.keep⟩
  · rw [handed]
    rfl
  · rw [handed]
    rfl

end Pipeline

end InlineDice
