import InlineDice.Play
import Mathlib.Data.List.Forall2

namespace InlineDice

section

variable {α β ε : Type}

theorem toBool_eq_true_iff {x : Except ε α} : x.toBool = true ↔ ∃ a, x = .ok a := by
  cases x <;> simp [Except.toBool]

theorem toOption_eq_some_iff {x : Except ε α} {a : α} : x.toOption = some a ↔ x = .ok a := by
  cases x <;> simp [Except.toOption]

theorem toBool_eq_false_iff {x : Except ε α} : x.toBool = false ↔ ∃ e, x = .error e := by
  cases x <;> simp [Except.toBool]

theorem except_bind_eq_ok_iff {x : Except ε α} {f : α → Except ε β} {b : β} :
    (x >>= f) = .ok b ↔ ∃ a, x = .ok a ∧ f a = .ok b := by
  cases x <;> simp [bind, Except.bind]

theorem except_bind_eq_error_iff {x : Except ε α} {f : α → Except ε β} {e : ε} :
    (x >>= f) = .error e ↔ x = .error e ∨ ∃ a, x = .ok a ∧ f a = .error e := by
  cases x <;> simp [bind, Except.bind]

theorem mapM_eq_ok_iff {f : α → Except ε β} {xs : List α} {ys : List β} :
    xs.mapM f = .ok ys ↔ List.Forall₂ (fun x y => f x = .ok y) xs ys := by
  induction xs generalizing ys with
  | nil => simp [pure, Except.pure, eq_comm]
  | cons x xs ih =>
    rw [List.mapM_cons, except_bind_eq_ok_iff, List.forall₂_cons_left_iff]
    simp only [except_bind_eq_ok_iff, ih, pure, Except.pure, Except.ok.injEq]
    constructor
    · rintro ⟨b, atFirst, bs, atRest, rfl⟩
      exact ⟨b, bs, atFirst, atRest, rfl⟩
    · rintro ⟨b, bs, atFirst, atRest, rfl⟩
      exact ⟨b, atFirst, bs, atRest, rfl⟩

/-- Every right member of related lists has a left one. -/
theorem forall₂_exists_left {R : α → β → Prop} {xs : List α} {ys : List β}
    (all : List.Forall₂ R xs ys) : ∀ y ∈ ys, ∃ x ∈ xs, R x y := by
  induction all with
  | nil => simp
  | cons related _ ih =>
    refine List.forall_mem_cons.mpr ⟨⟨_, List.mem_cons_self .., related⟩, ?_⟩
    intro y member
    obtain ⟨x, among, related⟩ := ih y member
    exact ⟨x, List.mem_cons_of_mem _ among, related⟩

theorem forall₂_exists_right {R : α → β → Prop} {xs : List α} {ys : List β}
    (all : List.Forall₂ R xs ys) : ∀ x ∈ xs, ∃ y ∈ ys, R x y :=
  forall₂_exists_left (List.Forall₂.flip (R := flip R) all)

/-- A fault of a list is the fault of its first bad member; those before it are fine. -/
theorem mapM_eq_error_iff {f : α → Except ε β} {xs : List α} {e : ε} :
    xs.mapM f = .error e ↔ ∃ before x after, xs = before ++ x :: after ∧
      (∀ y ∈ before, ∃ b, f y = .ok b) ∧ f x = .error e := by
  induction xs with
  | nil => simp [pure, Except.pure]
  | cons x xs ih =>
    rw [List.mapM_cons, except_bind_eq_error_iff]
    simp only [except_bind_eq_error_iff, ih, pure, Except.pure, reduceCtorEq, and_false,
      exists_false, or_false]
    constructor
    · rintro (fails | ⟨b, worked, before, y, after, rfl, fine, fails⟩)
      · exact ⟨[], x, xs, rfl, by simp, fails⟩
      · exact ⟨x :: before, y, after, rfl, List.forall_mem_cons.mpr ⟨⟨b, worked⟩, fine⟩, fails⟩
    · rintro ⟨before, y, after, split, fine, fails⟩
      cases before with
      | nil =>
        cases split
        exact .inl fails
      | cons z before =>
        cases split
        obtain ⟨⟨b, worked⟩, fine⟩ := List.forall_mem_cons.mp fine
        exact .inr ⟨b, worked, before, y, after, rfl, fine, fails⟩

end

/-- What is left behind when a run goes on after another. -/
def Played.followedBy {σ α β : Type} (before : Played σ α) (later : Played σ β) : Played σ β :=
  ⟨later.outcome, later.source, before.draws ++ later.draws, before.notes ++ later.notes⟩

/-- What is left behind when a run ends in a fault, whatever it was to result in. -/
def Played.endedBy {σ α β : Type} (played : Played σ α) (fault : Fault) : Played σ β :=
  ⟨.error fault, played.source, played.draws, played.notes⟩

namespace Play

variable {σ α β : Type} {first : Play σ α} {second : α → Play σ β} {source : σ}

theorem run_ofExcept (outcome : Except Fault α) (source : σ) :
    (ofExcept outcome).run source = ⟨outcome, source, [], []⟩ := rfl

theorem run_note (n : Note) (source : σ) : (note n).run source = ⟨.ok (), source, [], [n]⟩ := rfl

theorem fail_bind (fault : Fault) (next : α → Play σ β) : fail fault >>= next = fail fault := rfl

theorem run_bind_of_ok {a : α} (ok : (first.run source).outcome = .ok a) :
    (first >>= second).run source =
      (first.run source).followedBy ((second a).run (first.run source).source) := by
  rw [run_bind]
  unfold andThen Played.followedBy
  simp only [run] at ok ⊢
  rw [ok]

theorem run_bind_of_error {fault : Fault} (failed : (first.run source).outcome = .error fault) :
    (first >>= second).run source = (first.run source).endedBy fault := by
  rw [run_bind]
  unfold andThen Played.endedBy
  simp only [run] at failed ⊢
  rw [failed]

theorem run_bind_of_run {a : α} {mid : σ} {draws : List Draw} {notes : List Note}
    (ran : first.run source = ⟨.ok a, mid, draws, notes⟩) :
    (first >>= second).run source =
      (⟨.ok a, mid, draws, notes⟩ : Played σ α).followedBy ((second a).run mid) := by
  rw [run_bind_of_ok (by rw [ran]), ran]

theorem run_map_of_run {f : α → β} {a : α} {rest : σ} {draws : List Draw} {notes : List Note}
    (ran : first.run source = ⟨.ok a, rest, draws, notes⟩) :
    (f <$> first).run source = ⟨.ok (f a), rest, draws, notes⟩ := by
  rw [run_map, map]
  simp only [run] at ran
  rw [ran]
  rfl

theorem run_map_of_failed {f : α → β} {fault : Fault} {rest : σ} {draws : List Draw}
    {notes : List Note} (ran : first.run source = ⟨.error fault, rest, draws, notes⟩) :
    (f <$> first).run source = ⟨.error fault, rest, draws, notes⟩ := by
  rw [run_map, map]
  simp only [run] at ran
  rw [ran]
  rfl

theorem run_map_outcome (f : α → β) (play : Play σ α) (source : σ) :
    ((f <$> play).run source).outcome = (play.run source).outcome.map f := rfl

/-- What a mapped run ends with, from what the run itself ends with. -/
theorem run_map_eq_ok_iff {f : α → β} {play : Play σ α} {b : β} :
    ((f <$> play).run source).outcome = .ok b ↔
      ∃ a, (play.run source).outcome = .ok a ∧ f a = b := by
  rw [run_map_outcome]
  cases (play.run source).outcome <;> simp [Except.map]

section

variable {rest : σ} {draws : List Draw} {notes : List Note}

theorem run_map_eq_iff {f : α → β} {play : Play σ α} {b : β} :
    (f <$> play).run source = ⟨.ok b, rest, draws, notes⟩ ↔
      ∃ a, play.run source = ⟨.ok a, rest, draws, notes⟩ ∧ f a = b := by
  rcases ran : play.run source with ⟨_ | a, mid, _, _⟩
  · rw [run_map_of_failed ran]
    simp
  · rw [run_map_of_run ran]
    simp only [Played.mk.injEq, Except.ok.injEq]
    constructor
    · rintro ⟨same, left⟩
      exact ⟨a, ⟨rfl, left⟩, same⟩
    · rintro ⟨_, ⟨rfl, left⟩, same⟩
      exact ⟨same, left⟩

/-- Two steps end well when both do, the second from where the first left the source. -/
theorem run_bind_eq_iff {b : β} :
    (first >>= second).run source = ⟨.ok b, rest, draws, notes⟩ ↔
      ∃ a mid firstDraws firstNotes laterDraws laterNotes,
        first.run source = ⟨.ok a, mid, firstDraws, firstNotes⟩ ∧
          (second a).run mid = ⟨.ok b, rest, laterDraws, laterNotes⟩ ∧
          draws = firstDraws ++ laterDraws ∧ notes = firstNotes ++ laterNotes := by
  rcases ran : first.run source with ⟨_ | a, mid, firstDraws, firstNotes⟩
  · rw [run_bind_of_error (by rw [ran])]
    simp [Played.endedBy]
  · rw [run_bind_of_run ran]
    rcases later : (second a).run mid with ⟨outcome, left, laterDraws, laterNotes⟩
    simp only [Played.followedBy, Played.mk.injEq, Except.ok.injEq]
    constructor
    · rintro ⟨rfl, rfl, rfl, rfl⟩
      exact ⟨a, mid, firstDraws, firstNotes, laterDraws, laterNotes, ⟨rfl, rfl, rfl, rfl⟩, later,
        rfl, rfl⟩
    · rintro ⟨_, _, _, _, _, _, ⟨rfl, rfl, rfl, rfl⟩, same, rfl, rfl⟩
      rw [later] at same
      cases same
      simp

end

section

variable {f : α → Play σ β} {rest : σ} {draws : List Draw} {notes : List Note}

theorem mapM_cons_play (x : α) (xs : List α) :
    (x :: xs).mapM f = f x >>= fun y => (y :: ·) <$> xs.mapM f := by
  rw [List.mapM_cons]
  simp only [bind_pure_comp]

theorem mapM_congr {g : α → Play σ β} {xs : List α} (same : ∀ x ∈ xs, f x = g x) :
    xs.mapM f = xs.mapM g := by
  induction xs with
  | nil => rfl
  | cons x xs ih =>
    obtain ⟨first, later⟩ := List.forall_mem_cons.mp same
    rw [mapM_cons_play, mapM_cons_play, first, ih later]

/-- A list is run member by member, each from where the one before it left the source. -/
theorem run_mapM_cons_eq_iff {x : α} {xs : List α} {ys : List β} :
    ((x :: xs).mapM f).run source = ⟨.ok ys, rest, draws, notes⟩ ↔
      ∃ y mid firstDraws firstNotes laterDraws laterNotes,
        (f x).run source = ⟨.ok y, mid, firstDraws, firstNotes⟩ ∧
          (∃ more, (xs.mapM f).run mid = ⟨.ok more, rest, laterDraws, laterNotes⟩ ∧
            y :: more = ys) ∧
          draws = firstDraws ++ laterDraws ∧ notes = firstNotes ++ laterNotes := by
  rw [mapM_cons_play, run_bind_eq_iff]
  simp only [run_map_eq_iff]

/-- Each result of a run over a list is what its member ended with, on some source. -/
theorem run_mapM_forall₂ {xs : List α} {ys : List β}
    (ran : (xs.mapM f).run source = ⟨.ok ys, rest, draws, notes⟩) :
    List.Forall₂ (fun x y => ∃ source, ((f x).run source).outcome = .ok y) xs ys := by
  induction xs generalizing source ys draws notes with
  | nil =>
    cases ran
    exact .nil
  | cons x xs ih =>
    obtain ⟨y, _, _, _, _, _, first, ⟨more, later, rfl⟩, -, -⟩ := run_mapM_cons_eq_iff.mp ran
    exact .cons ⟨source, by rw [first]⟩ (ih later)

/-- A run over a list ends badly at its first member that does. -/
theorem run_mapM_eq_error {xs : List α} {fault : Fault}
    (ran : (xs.mapM f).run source = ⟨.error fault, rest, draws, notes⟩) :
    ∃ before x after ys mid earlier earlierNotes own ownNotes, xs = before ++ x :: after ∧
      (before.mapM f).run source = ⟨.ok ys, mid, earlier, earlierNotes⟩ ∧
      (f x).run mid = ⟨.error fault, rest, own, ownNotes⟩ ∧ draws = earlier ++ own := by
  induction xs generalizing source draws notes with
  | nil => cases ran
  | cons x xs ih =>
    rw [mapM_cons_play] at ran
    rcases first : (f x).run source with ⟨other | y, mid, firstDraws, firstNotes⟩
    · rw [run_bind_of_error (by rw [first]), first] at ran
      cases ran
      exact ⟨[], x, xs, [], source, [], [], _, _, rfl, rfl, first, rfl⟩
    · rw [run_bind_of_run first] at ran
      rcases later : (xs.mapM f).run mid with ⟨other | more, left, laterDraws, laterNotes⟩
      · rw [run_map_of_failed later] at ran
        cases ran
        obtain ⟨before, z, after, ys, last, earlier, earlierNotes, own, ownNotes, rfl, ranBefore,
          fails, rfl⟩ := ih later
        refine ⟨x :: before, z, after, y :: ys, last, firstDraws ++ earlier,
          firstNotes ++ earlierNotes, own, ownNotes, rfl, ?_, fails, by rw [List.append_assoc]⟩
        exact run_mapM_cons_eq_iff.mpr
          ⟨y, mid, firstDraws, firstNotes, earlier, earlierNotes, first, ⟨ys, ranBefore, rfl⟩, rfl, rfl⟩
      · rw [run_map_of_run later] at ran
        cases ran

/-- To change the result of a run matters only for the results that it can end with. -/
theorem map_congr_of_run {γ : Type} {play : Play σ α} {g h : α → γ}
    (same : ∀ source rest draws notes a, play.run source = ⟨.ok a, rest, draws, notes⟩ → g a = h a) :
    g <$> play = h <$> play := by
  funext source
  show (g <$> play).run source = (h <$> play).run source
  rcases ran : play.run source with ⟨fault | a, rest, draws, notes⟩
  · rw [run_map_of_failed ran, run_map_of_failed ran]
  · rw [run_map_of_run ran, run_map_of_run ran, same _ _ _ _ a ran]

end

/-! ## The faults that a run can end in -/

section

variable {faults : Fault → Prop} {play : Play σ α}

/-- Wherever a run starts from, it fails by one of these faults or not at all. -/
def FailsIn (play : Play σ α) (faults : Fault → Prop) : Prop :=
  ∀ source fault, (play.run source).outcome = .error fault → faults fault

namespace FailsIn

theorem pure (a : α) : (Pure.pure a : Play σ α).FailsIn faults := nofun

theorem note (n : Note) : (Play.note n : Play σ Unit).FailsIn faults := nofun

theorem fail {fault : Fault} (among : faults fault) : (Play.fail fault : Play σ α).FailsIn faults := by
  intro source other failed
  cases failed
  exact among

theorem bind {next : α → Play σ β} (first : play.FailsIn faults)
    (later : ∀ a, (next a).FailsIn faults) : (play >>= next).FailsIn faults := by
  intro source fault failed
  rcases ran : play.run source with ⟨other | a, mid, draws, notes⟩
  · rw [run_bind_of_error (by rw [ran])] at failed
    cases failed
    exact first source fault (by rw [ran])
  · rw [run_bind_of_run ran] at failed
    exact later a mid fault failed

theorem map {f : α → β} (first : play.FailsIn faults) : (f <$> play).FailsIn faults := by
  rw [map_eq_bind]
  exact first.bind fun a => .pure (f a)

end FailsIn

end

end Play

end InlineDice
