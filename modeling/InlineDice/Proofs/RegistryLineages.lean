import InlineDice.Proofs.RegistryGrowth
import InlineDice.Registry.Family
import Mathlib.Data.Option.Defs

namespace InlineDice

open Registry

namespace Family

namespace Change

/-- The registry that a change starts from. -/
def on : Change → Text
  | register on _ _ | extend on _ _ => on

/-- The registry that a change makes anew. -/
def target : Change → Text
  | register on _ _ => on
  | extend _ as _ => as

def offers : Change → List (Datum × Offer)
  | register _ symbol offer => [(symbol, offer)]
  | extend _ _ offers => offers

def Passes (c : Change) : Prop := ∀ offer ∈ c.offers, (entryOf? offer).isSome = true

instance (c : Change) : Decidable c.Passes := inferInstanceAs (Decidable (∀ _ ∈ _, _))

end Change

def run (f : Family) (changes : List Change) : Family := changes.foldl change f

/-- For each registry the registrations that were made along its lineage. A copy begins with those of
the registry it was made from. -/
abbrev Lineages := Text → Option (List (Char × Processor))

/-- A change prolongs the lineage that it starts from, if it passes, and no other. -/
def Lineages.follow (l : Lineages) (c : Change) : Lineages :=
  match l c.on with
  | none => l
  | some history =>
    if c.Passes then Function.update l c.target (some (history ++ c.offers.filterMap entryOf?)) else l

/-- The lineage under each name is that of the registry under it. -/
def Lineages.Tracks (l : Lineages) (f : Family) : Prop := ∀ n, Option.Rel GrownBy (l n) (f.get? n)

section

variable {f : Family} {c : Change} {r after : Registry} {n name : Text}
  {history : List (Char × Processor)}

theorem get?_set (f : Family) (name n : Text) (r : Registry) :
    (f.set name r).get? n = if n = name then some r else f.get? n :=
  Keyed.lookup_put name n r f.members

theorem made?_of_absent (absent : f.get? c.on = none) : f.made? c = none := by
  cases c with
  | register on symbol offer =>
    have none : f.get? on = none := absent
    rw [made?, none, Option.map_none]
  | extend on as offers =>
    have none : f.get? on = none := absent
    rw [made?, none, Option.map_none]

/-- A change registers its offers, on the registry it starts from or on a copy. -/
theorem made?_of_grown (held : f.get? c.on = some r) (grown : r.GrownBy history) :
    f.made? c = some (c.target, r.registerAll c.offers) := by
  cases c with
  | register on symbol offer =>
    have there : f.get? on = some r := held
    rw [made?, there, Option.map_some, Change.offers, registerAll_singleton]
    rfl
  | extend on as offers =>
    have there : f.get? on = some r := held
    rw [made?, there, Option.map_some, grown.extended]
    rfl

theorem made?_name {made : Except Fault Registry} (makes : f.made? c = some (name, made)) :
    name = c.target := by
  cases c with
  | register on symbol offer =>
    obtain ⟨r, -, same⟩ := Option.map_eq_some_iff.mp makes
    exact (congrArg Prod.fst same).symm
  | extend on as offers =>
    obtain ⟨r, -, same⟩ := Option.map_eq_some_iff.mp makes
    exact (congrArg Prod.fst same).symm

theorem change_of_ok (makes : f.made? c = some (name, .ok r)) : f.change c = f.set name r := by
  rw [change, makes]

theorem change_of_error {fault : Fault} (fails : f.made? c = some (name, .error fault)) :
    f.change c = f := by
  rw [change, fails]

theorem change_of_absent (absent : f.get? c.on = none) : f.change c = f := by
  rw [change, made?_of_absent absent]

theorem get?_change_of_ne (apart : n ≠ c.target) : (f.change c).get? n = f.get? n := by
  unfold change
  split
  · next name r makes =>
    rw [get?_set, made?_name makes, if_neg apart]
  · rfl

theorem get?_run_of_ne {changes : List Change} (apart : ∀ c ∈ changes, n ≠ c.target) :
    (f.run changes).get? n = f.get? n := by
  induction changes generalizing f with
  | nil => rfl
  | cons c changes ih =>
    obtain ⟨first, later⟩ := List.forall_mem_cons.mp apart
    exact (ih later).trans (get?_change_of_ne first)

namespace Lineages.Tracks

variable {l : Lineages}

theorem absent (tracks : l.Tracks f) (unknown : l n = none) : f.get? n = none := by
  have related := tracks n
  rw [unknown] at related
  generalize f.get? n = there at related ⊢
  cases related
  rfl

theorem grown (tracks : l.Tracks f) (known : l n = some history) :
    ∃ r, f.get? n = some r ∧ r.GrownBy history := by
  have related := tracks n
  rw [known] at related
  generalize f.get? n = there at related ⊢
  cases related with
  | some grown => exact ⟨_, rfl, grown⟩

theorem grown_of_held (tracks : l.Tracks f) (held : f.get? n = some r) :
    ∃ history, l n = some history ∧ r.GrownBy history := by
  have related := tracks n
  rw [held] at related
  generalize l n = there at related ⊢
  cases related with
  | some grown => exact ⟨_, rfl, grown⟩

theorem isSome_eq (tracks : l.Tracks f) (n : Text) : (f.get? n).isSome = (l n).isSome := by
  have related := tracks n
  generalize f.get? n = there, l n = lineage at related ⊢
  cases related <;> rfl

/-- One change keeps lineages and registries in step, whether it passes or fails. -/
theorem follow (tracks : l.Tracks f) (c : Change) : (l.follow c).Tracks (f.change c) := by
  unfold Lineages.follow
  cases known : l c.on with
  | none =>
    rw [change_of_absent (tracks.absent known)]
    exact tracks
  | some history =>
    obtain ⟨r, held, grown⟩ := tracks.grown known
    have makes := made?_of_grown held grown
    by_cases passes : c.Passes
    · have made : r.registerAll c.offers = .ok (r.insertAll (c.offers.filterMap entryOf?)) :=
        registerAll_eq_ok_iff.mpr ⟨passes, rfl⟩
      rw [made] at makes
      simp only [if_pos passes, change_of_ok makes]
      intro n
      rw [get?_set, Function.update_apply]
      by_cases same : n = c.target
      · rw [if_pos same, if_pos same]
        exact .some (grown.registerAll made)
      · rw [if_neg same, if_neg same]
        exact tracks n
    · obtain ⟨fault, failed⟩ : ∃ fault, r.registerAll c.offers = .error fault := by
        cases made : r.registerAll c.offers with
        | ok after => exact absurd (registerAll_eq_ok_iff.mp made).1 passes
        | error fault => exact ⟨fault, rfl⟩
      rw [failed] at makes
      simp only [if_neg passes, change_of_error makes]
      exact tracks

theorem run (tracks : l.Tracks f) (changes : List Change) :
    (changes.foldl Lineages.follow l).Tracks (f.run changes) := by
  induction changes generalizing f l with
  | nil => exact tracks
  | cons c changes ih => exact ih (tracks.follow c)

end Lineages.Tracks

end

/-- At first there are a constructed registry, and one of the built-in processors alone. -/
def Lineages.start (name stock : Text) (history : List (Char × Processor)) : Lineages := fun n =>
  if n = name then some history else if n = stock then some builtin.entries else none

theorem Lineages.Tracks.start {r : Registry} {history : List (Char × Processor)}
    (grown : r.GrownBy history) (name stock : Text) :
    (Lineages.start name stock history).Tracks ⟨[(name, r), (stock, builtin)]⟩ := by
  intro n
  have there : (⟨[(name, r), (stock, builtin)]⟩ : Family).get? n =
      if n = name then some r else if n = stock then some builtin else none := by
    unfold get?
    rw [Keyed.lookup_entry, Keyed.lookup_entry, List.lookup_nil]
  rw [there, Lineages.start]
  split
  · exact .some grown
  · split
    · exact .some .builtin
    · exact .none

/-- Registries keep to their lineages, through any registrations and copies, failing or not. From a
constructed registry, and the built-in processors beside it, there comes about a registry under
exactly the names that a lineage leads to, and each shows the registrations along its own: their
symbols in the order in which they first came in, none twice and none that belongs to the notation,
and under each symbol the latest processor. A copy never fails on what it copies. A change that fails
changes nothing, and one that goes through changes the registry it makes and no other. -/
theorem registries_keep_to_their_lineages {withBuiltin : Bool} {offers : List (Datum × Offer)}
    {r : Registry} (built : Registry.ofOffers withBuiltin offers = .ok r) (name stock : Text)
    (changes : List Change) :
    let start : Family := ⟨[(name, r), (stock, builtin)]⟩
    let history := (if withBuiltin then builtin.entries else []) ++ offers.filterMap entryOf?
    let lineages := changes.foldl Lineages.follow (.start name stock history)
    let f := start.run changes
    (∀ n, (f.get? n).isSome = (lineages n).isSome) ∧
    (∀ n r history, f.get? n = some r → lineages n = some history → r.Reflects history) ∧
    (∀ n r, f.get? n = some r → Registry.empty.registerAll r.offers = .ok r ∧
      ∀ offers, r.extended offers = r.registerAll offers) ∧
    (∀ c r, f.get? c.on = some r →
      ∃ made, f.made? c = some (c.target, made) ∧ ((∃ after, made = .ok after) ↔ c.Passes)) ∧
    (∀ c name fault, f.made? c = some (name, .error fault) → f.change c = f) ∧
    (∀ c n, n ≠ c.target → (f.change c).get? n = f.get? n) ∧
    ∀ n, (∀ c ∈ changes, n ≠ c.target) → f.get? n = start.get? n := by
  intro start history lineages f
  have tracks : lineages.Tracks f := (Lineages.Tracks.start (.ofOffers built) name stock).run changes
  refine ⟨tracks.isSome_eq, ?reflects, ?copies, ?passes, fun _ _ _ => change_of_error,
    fun _ _ => get?_change_of_ne, fun _ => get?_run_of_ne⟩
  case reflects =>
    intro n r history held known
    obtain ⟨same, along, grown⟩ := tracks.grown_of_held held
    rw [known] at along
    cases along
    exact grown.reflects
  case copies =>
    intro n r held
    obtain ⟨history, -, grown⟩ := tracks.grown_of_held held
    exact ⟨grown.copy, grown.extended⟩
  case passes =>
    intro c r held
    obtain ⟨history, -, grown⟩ := tracks.grown_of_held held
    refine ⟨_, made?_of_grown held grown, ?_⟩
    simp only [registerAll_eq_ok_iff]
    exact ⟨fun ⟨_, passes, _⟩ => passes, fun passes => ⟨_, passes, rfl⟩⟩

/-- A batch that fails late, the same batch without its bad entry, and two processors overridden. -/
def overriding : List Change :=
  [.register "main".toList (.text ['<']) (.processor .descending),
    .extend "main".toList "copy".toList
      [(.text ['*'], .processor .total), (.text ['1'], .processor .total)],
    .extend "main".toList "copy".toList [(.text ['*'], .processor .total)],
    .register "copy".toList (.text ['!']) (.processor .ascending)]

theorem registries_keep_to_their_lineages_overriding :
    let r : Registry := ⟨builtin.entries ++ [('!', .total)]⟩
    let f := Family.run ⟨[("main".toList, r), ("stock".toList, builtin)]⟩ overriding
    Registry.ofOffers true [(.text ['!'], .processor .total)] = .ok r ∧
      (∃ main, f.get? "main".toList = some main ∧ main.symbols = "<>+!".toList ∧
        main.processor (.text ['<']) = .ok .descending ∧
        main.processor (.text ['!']) = .ok .total) ∧
      (∃ copy, f.get? "copy".toList = some copy ∧ copy.symbols = "<>+!*".toList ∧
        copy.processor (.text ['<']) = .ok .descending ∧
        copy.processor (.text ['!']) = .ok .ascending) ∧
      f.get? "stock".toList = some builtin := by
  intro r f
  have built : Registry.ofOffers true [(.text ['!'], .processor .total)] = .ok r := rfl
  obtain ⟨names, reflects, -, -, -, -, frame⟩ :=
    registries_keep_to_their_lineages built "main".toList "stock".toList overriding
  obtain ⟨main, atMain⟩ := Option.isSome_iff_exists.mp ((names "main".toList).trans rfl)
  obtain ⟨copy, atCopy⟩ := Option.isSome_iff_exists.mp ((names "copy".toList).trans rfl)
  have ofMain := reflects _ main _ atMain rfl
  have ofCopy := reflects _ copy _ atCopy rfl
  have untouched : ∀ c ∈ overriding, "stock".toList ≠ c.target := by decide
  refine ⟨built, ⟨main, atMain, ?_, ?_, ?_⟩, ⟨copy, atCopy, ?_, ?_, ?_⟩, frame _ untouched⟩
  · exact ofMain.order.trans (by decide)
  · exact (ofMain.latest _ _).mpr ⟨'<', rfl, rfl⟩
  · exact (ofMain.latest _ _).mpr ⟨'!', rfl, rfl⟩
  · exact ofCopy.order.trans (by decide)
  · exact (ofCopy.latest _ _).mpr ⟨'<', rfl, rfl⟩
  · exact (ofCopy.latest _ _).mpr ⟨'!', rfl, rfl⟩

end Family

end InlineDice
