import InlineDice.Proofs.PlayRuns
import InlineDice.Registry.Basic
import Mathlib.Data.List.Induction

namespace InlineDice

namespace Registry

/-- The entry that a registration makes. Its symbol has to be one character that the notation leaves
free, and its processor one that takes the rolls alone or hides what it takes. -/
def entryOf? : Datum × Offer → Option (Char × Processor)
  | (.text [c], .processor p) =>
    if !isReserved c && p.parameters.all Parameters.acceptOne then some (c, p) else none
  | _ => none

/-- Registrations one after the other, the later ones over the earlier. -/
def insertAll (r : Registry) (history : List (Char × Processor)) : Registry :=
  history.foldl (fun r entry => r.insert entry.1 entry.2) r

variable {r after : Registry} {symbol : Datum} {offer : Offer} {c : Char} {p : Processor}
  {history : List (Char × Processor)}

theorem entryOf?_eq_some_iff :
    entryOf? (symbol, offer) = some (c, p) ↔ (symbol = .text [c] ∧ isReserved c = false) ∧
      offer = .processor p ∧ p.parameters.all Parameters.acceptOne = true := by
  unfold entryOf?
  split
  · next d q same =>
    cases same
    split
    · next usable =>
      simp only [Bool.and_eq_true, Bool.not_eq_true'] at usable
      simp only [Option.some.injEq, Prod.mk.injEq, Datum.text.injEq, List.cons.injEq, and_true,
        Offer.processor.injEq]
      constructor
      · rintro ⟨rfl, rfl⟩
        exact ⟨⟨rfl, usable.1⟩, rfl, usable.2⟩
      · rintro ⟨⟨rfl, -⟩, rfl, -⟩
        exact ⟨rfl, rfl⟩
    · next unusable =>
      refine ⟨nofun, ?_⟩
      rintro ⟨⟨single, free⟩, offered, callable⟩
      cases single
      cases offered
      simp [free, callable] at unusable
  · next other =>
    refine ⟨nofun, ?_⟩
    rintro ⟨⟨rfl, -⟩, rfl, -⟩
    exact absurd rfl (other c p)

theorem symbolOf_eq_ok_iff : symbolOf symbol = .ok c ↔ symbol = .text [c] ∧ isReserved c = false := by
  unfold symbolOf
  split
  · next d =>
    cases reserved : isReserved d with
    | true =>
      refine ⟨nofun, ?_⟩
      rintro ⟨single, free⟩
      cases single
      rw [reserved] at free
      cases free
    | false =>
      simp only [Bool.false_eq_true, if_false, Except.ok.injEq, Datum.text.injEq, List.cons.injEq,
        and_true]
      exact ⟨fun same => ⟨same, same ▸ reserved⟩, And.left⟩
  · next other =>
    refine ⟨nofun, ?_⟩
    rintro ⟨rfl, -⟩
    exact absurd rfl (other c)

theorem processorOf_eq_ok_iff :
    processorOf c offer = .ok p ↔
      offer = .processor p ∧ p.parameters.all Parameters.acceptOne = true := by
  cases offer with
  | inert => simp [processorOf]
  | processor q =>
    have checked : processorOf c (.processor q) =
        if q.parameters.all Parameters.acceptOne then .ok q else .error (.notUnary c) := by
      cases known : q.parameters <;> simp [processorOf, known]
    rw [checked, Offer.processor.injEq]
    split
    · next callable =>
      rw [Except.ok.injEq]
      exact ⟨fun same => ⟨same, same ▸ callable⟩, And.left⟩
    · next several =>
      refine ⟨nofun, ?_⟩
      rintro ⟨rfl, callable⟩
      exact absurd callable several

theorem register_eq_ok_iff :
    r.register symbol offer = .ok after ↔
      ∃ entry, entryOf? (symbol, offer) = some entry ∧ r.insert entry.1 entry.2 = after := by
  unfold register
  simp only [except_bind_eq_ok_iff, symbolOf_eq_ok_iff, processorOf_eq_ok_iff, Prod.exists,
    entryOf?_eq_some_iff, pure, Except.pure, Except.ok.injEq]
  constructor
  · rintro ⟨c, single, p, callable, same⟩
    exact ⟨c, p, ⟨single, callable⟩, same⟩
  · rintro ⟨c, p, ⟨single, callable⟩, same⟩
    exact ⟨c, single, p, callable, same⟩

theorem registerAll_singleton (r : Registry) (symbol : Datum) (offer : Offer) :
    r.registerAll [(symbol, offer)] = r.register symbol offer := by
  unfold registerAll
  rw [List.foldlM_cons]
  exact bind_pure _

/-- A batch of registrations goes through if each of them can be made, whatever stands before it. -/
theorem registerAll_eq_ok_iff {offers : List (Datum × Offer)} :
    r.registerAll offers = .ok after ↔
      (∀ offer ∈ offers, (entryOf? offer).isSome = true) ∧
        r.insertAll (offers.filterMap entryOf?) = after := by
  induction offers generalizing r with
  | nil => simp [registerAll, insertAll, pure, Except.pure]
  | cons offer offers ih =>
    have first : r.registerAll (offer :: offers) =
        r.register offer.1 offer.2 >>= fun next => next.registerAll offers := List.foldlM_cons
    rw [first, except_bind_eq_ok_iff]
    simp only [register_eq_ok_iff, ih, List.forall_mem_cons]
    constructor
    · rintro ⟨_, ⟨entry, made, rfl⟩, later, same⟩
      refine ⟨⟨Option.isSome_iff_exists.mpr ⟨entry, made⟩, later⟩, ?_⟩
      rw [List.filterMap_cons_some made]
      exact same
    · rintro ⟨⟨usable, later⟩, same⟩
      obtain ⟨entry, made⟩ := Option.isSome_iff_exists.mp usable
      rw [List.filterMap_cons_some made] at same
      exact ⟨_, ⟨entry, made, rfl⟩, later, same⟩

/-- A registry that came about by these registrations, in this order and from nothing. -/
structure GrownBy (history : List (Char × Processor)) (r : Registry) : Prop where
  grown : empty.insertAll history = r
  usable : ∀ entry ∈ history, entryOf? (.text [entry.1], .processor entry.2) = some entry

theorem GrownBy.builtin : GrownBy Registry.builtin.entries .builtin := by
  refine ⟨rfl, ?_⟩
  simp only [Registry.builtin, List.forall_mem_cons]
  exact ⟨rfl, rfl, rfl, by simp⟩

theorem insertAll_append (r : Registry) (history more : List (Char × Processor)) :
    r.insertAll (history ++ more) = (r.insertAll history).insertAll more :=
  List.foldl_append

theorem entryOf?_of_mem_filterMap {offers : List (Datum × Offer)} :
    ∀ entry ∈ offers.filterMap entryOf?, entryOf? (.text [entry.1], .processor entry.2) = some entry := by
  rintro ⟨c, p⟩ member
  obtain ⟨⟨symbol, offer⟩, -, made⟩ := List.mem_filterMap.mp member
  obtain ⟨⟨rfl, -⟩, rfl, -⟩ := entryOf?_eq_some_iff.mp made
  exact made

theorem GrownBy.registerAll (grown : r.GrownBy history) {offers : List (Datum × Offer)}
    (made : r.registerAll offers = .ok after) :
    after.GrownBy (history ++ offers.filterMap entryOf?) := by
  obtain ⟨-, rfl⟩ := registerAll_eq_ok_iff.mp made
  refine ⟨?_, List.forall_mem_append.mpr ⟨grown.usable, entryOf?_of_mem_filterMap⟩⟩
  rw [insertAll_append, grown.grown]

/-- A constructed registry has grown by the built-in entries, if it begins with them, and by its
own. -/
theorem GrownBy.ofOffers {withBuiltin : Bool} {offers : List (Datum × Offer)}
    (built : Registry.ofOffers withBuiltin offers = .ok r) :
    r.GrownBy ((if withBuiltin then Registry.builtin.entries else []) ++ offers.filterMap entryOf?) := by
  have first : (if withBuiltin then Registry.builtin else empty).GrownBy
      (if withBuiltin then Registry.builtin.entries else []) := by
    cases withBuiltin with
    | false => exact ⟨rfl, by simp⟩
    | true => exact .builtin
  exact first.registerAll built

theorem symbols_insert (r : Registry) (c : Char) (p : Processor) :
    (r.insert c p).symbols = if c ∈ r.symbols then r.symbols else r.symbols ++ [c] :=
  Keyed.keys_put c p r.entries

theorem find?_insert (r : Registry) (c other : Char) (p : Processor) :
    (r.insert c p).find? other = if other = c then some p else r.find? other :=
  Keyed.lookup_put c other p r.entries

theorem find?_of_mem (distinct : r.symbols.Nodup) (member : (c, p) ∈ r.entries) :
    r.find? c = some p := by
  obtain ⟨before, later, split⟩ := List.append_of_mem member
  refine List.lookup_eq_some_iff.mpr ⟨before, later, split, fun entry earlier => ?_⟩
  rw [symbols, split, List.map_append, List.nodup_append] at distinct
  have apart := distinct.2.2 _ (List.mem_map_of_mem earlier) c (by simp)
  simpa using Ne.symm apart

theorem insertAll_concat (r : Registry) (history : List (Char × Processor))
    (entry : Char × Processor) :
    r.insertAll (history ++ [entry]) = (r.insertAll history).insert entry.1 entry.2 :=
  insertAll_append r history [entry]

theorem symbols_insertAll_empty (history : List (Char × Processor)) :
    (empty.insertAll history).symbols = (history.map Prod.fst).eraseDups := by
  -- From the end, where a registration either finds its symbol or puts it last.
  induction history using List.reverseRecOn with
  | nil => rfl
  | append_singleton history entry ih =>
    rw [insertAll_concat, symbols_insert, ih, List.map_append, List.eraseDups_append]
    by_cases known : entry.1 ∈ history.map Prod.fst
    · have again : [entry.1].removeAll (history.map Prod.fst) = [] := by
        simp [List.removeAll, known]
      rw [if_pos (List.mem_eraseDups.mpr known), List.map_singleton, again]
      simp
    · have fresh : [entry.1].removeAll (history.map Prod.fst) = [entry.1] := by
        simp [List.removeAll, known]
      rw [if_neg (mt List.mem_eraseDups.mp known), List.map_singleton, fresh, List.eraseDups_cons]
      rfl

theorem nodup_insertAll_empty (history : List (Char × Processor)) :
    (empty.insertAll history).symbols.Nodup := by
  induction history using List.reverseRecOn with
  | nil => exact List.nodup_nil
  | append_singleton history entry ih =>
    rw [insertAll_concat, symbols_insert]
    split
    · exact ih
    · next fresh =>
      refine List.nodup_append.mpr ⟨ih, List.pairwise_singleton .., ?_⟩
      intro c member d last
      rw [List.mem_singleton.mp last]
      exact ne_of_mem_of_not_mem member fresh

/-- Of the registrations of a symbol the latest counts. -/
theorem find?_insertAll_empty (history : List (Char × Processor)) (c : Char) :
    (empty.insertAll history).find? c = history.reverse.lookup c := by
  -- From the end, as the last registration is the first that the look-up meets.
  induction history using List.reverseRecOn with
  | nil => rfl
  | append_singleton history entry ih =>
    rw [insertAll_concat, find?_insert, ih, List.reverse_concat, Keyed.lookup_entry]

theorem insert_of_not_mem (fresh : c ∉ r.symbols) : r.insert c p = ⟨r.entries ++ [(c, p)]⟩ := by
  obtain ⟨entries⟩ := r
  refine congrArg Registry.mk ?_
  dsimp only [symbols] at fresh
  induction entries with
  | nil => rfl
  | cons entry entries ih =>
    obtain ⟨apart, later⟩ := not_or.mp (List.mem_cons.not.mp fresh)
    rw [Keyed.put, if_neg (Ne.symm apart), ih later, List.cons_append]

/-- Entries of different symbols go in as they are. -/
theorem insertAll_empty_of_nodup {entries : List (Char × Processor)}
    (distinct : (entries.map Prod.fst).Nodup) : empty.insertAll entries = ⟨entries⟩ := by
  induction entries using List.reverseRecOn with
  | nil => rfl
  | append_singleton entries entry ih =>
    rw [List.map_append, List.nodup_append] at distinct
    obtain ⟨earlier, -, apart⟩ := distinct
    have fresh : entry.1 ∉ entries.map Prod.fst := by
      intro member
      exact apart _ member entry.1 (by simp) rfl
    rw [insertAll_concat, ih earlier]
    exact insert_of_not_mem fresh

theorem mem_entries_insert {entry : Char × Processor} (member : entry ∈ (r.insert c p).entries) :
    entry = (c, p) ∨ entry ∈ r.entries := by
  obtain ⟨entries⟩ := r
  dsimp only [insert] at member ⊢
  induction entries with
  | nil => exact .inl (List.mem_singleton.mp member)
  | cons first entries ih =>
    unfold Keyed.put at member
    split at member
    · rcases List.mem_cons.mp member with new | old
      · exact .inl new
      · exact .inr (List.mem_cons_of_mem _ old)
    · rcases List.mem_cons.mp member with same | later
      · exact .inr (same ▸ List.mem_cons_self ..)
      · exact (ih later).imp_right (List.mem_cons_of_mem _)

theorem mem_of_mem_entries {entry : Char × Processor}
    (member : entry ∈ (empty.insertAll history).entries) : entry ∈ history := by
  induction history using List.reverseRecOn with
  | nil => exact member
  | append_singleton history last ih =>
    rw [insertAll_concat] at member
    rcases mem_entries_insert member with rfl | earlier
    · exact List.mem_append_right _ (List.mem_singleton_self _)
    · exact List.mem_append_left _ (ih earlier)

namespace GrownBy

theorem nodup (grown : r.GrownBy history) : r.symbols.Nodup := by
  rw [← grown.grown]
  exact nodup_insertAll_empty history

theorem usable_entries (grown : r.GrownBy history) :
    ∀ entry ∈ r.entries, entryOf? (.text [entry.1], .processor entry.2) = some entry := by
  intro entry member
  rw [← grown.grown] at member
  exact grown.usable entry (mem_of_mem_entries member)

/-- The entries of a registry that has grown can be registered again, and make it anew. -/
theorem copy (grown : r.GrownBy history) : empty.registerAll r.offers = .ok r := by
  have made : r.offers.filterMap entryOf? = r.entries := by
    rw [offers, List.filterMap_map]
    have each : ∀ entry ∈ r.entries,
        (entryOf? ∘ fun entry => (Datum.text [entry.1], Offer.processor entry.2)) entry = some entry :=
      grown.usable_entries
    rw [List.filterMap_congr each, List.filterMap_some]
  refine registerAll_eq_ok_iff.mpr ⟨?_, ?_⟩
  · intro offer member
    obtain ⟨entry, among, rfl⟩ := List.mem_map.mp member
    rw [grown.usable_entries entry among]
    rfl
  · rw [made]
    exact insertAll_empty_of_nodup grown.nodup

theorem extended (grown : r.GrownBy history) (offers : List (Datum × Offer)) :
    r.extended offers = r.registerAll offers := by
  unfold Registry.extended
  rw [grown.copy]
  rfl

end GrownBy

/-- What a registry shows of the registrations that it came about by. Only a value that can be a key
can be looked for. -/
structure Reflects (r : Registry) (history : List (Char × Processor)) : Prop where
  free : ∀ c ∈ r.symbols, c.isDigit = false ∧ c ≠ ',' ∧ isBlank c = false
  distinct : r.symbols.Nodup
  order : r.symbols = (history.map Prod.fst).eraseDups
  latest : ∀ key p, r.processor key = .ok p ↔
    ∃ c, key = .text [c] ∧ history.reverse.lookup c = some p
  unknown : ∀ key : Datum, key.changeable? = none →
    (r.processor key = .error (.unknownProcessor key) ↔
      ∀ c, key = .text [c] → c ∉ history.map Prod.fst)

theorem isReserved_eq_false_iff :
    isReserved c = false ↔ c.isDigit = false ∧ isSeparator c = false := by
  simp [isReserved]

theorem not_isReserved_iff :
    isReserved c = false ↔ c.isDigit = false ∧ c ≠ ',' ∧ isBlank c = false := by
  simp [isReserved_eq_false_iff, isSeparator]

theorem processor_text (r : Registry) (c : Char) :
    r.processor (.text [c]) = (r.find? c).elim (.error (.unknownProcessor (.text [c]))) .ok := by
  cases held : r.find? c <;> simp [processor, lookup, held, bind, Except.bind, pure, Except.pure]

theorem processor_other {key : Datum} (other : ∀ c, key ≠ .text [c]) :
    r.processor key =
      .error (key.changeable?.elim (.unknownProcessor key) .notKey) := by
  have missed : r.lookup key = key.changeable?.elim (.ok none) fun kind => .error (.notKey kind) := by
    unfold lookup
    split
    · next c => exact absurd rfl (other c)
    · cases key.changeable? <;> rfl
  unfold processor
  rw [missed]
  cases key.changeable? <;> rfl

theorem lookup_reverse_eq_none_iff :
    history.reverse.lookup c = none ↔ c ∉ history.map Prod.fst := by
  rw [← Option.not_isSome_iff_eq_none, Keyed.lookup_isSome_iff, List.map_reverse, List.mem_reverse]

theorem GrownBy.reflects (grown : r.GrownBy history) : r.Reflects history := by
  have held : ∀ c, r.find? c = history.reverse.lookup c := by
    intro c
    rw [← grown.grown, find?_insertAll_empty]
  refine ⟨?free, grown.nodup, ?order, ?latest, ?unknown⟩
  case free =>
    intro c member
    obtain ⟨⟨d, p⟩, among, rfl⟩ := List.mem_map.mp member
    obtain ⟨⟨-, free⟩, -⟩ := entryOf?_eq_some_iff.mp (grown.usable_entries _ among)
    exact not_isReserved_iff.mp free
  case order =>
    rw [← grown.grown]
    exact symbols_insertAll_empty history
  case latest =>
    intro key p
    by_cases single : ∃ c, key = .text [c]
    · obtain ⟨c, rfl⟩ := single
      have named : (∃ d, Datum.text [c] = .text [d] ∧ history.reverse.lookup d = some p) ↔
          history.reverse.lookup c = some p := by simp
      rw [processor_text, held, named]
      cases history.reverse.lookup c <;> simp
    · have other := not_exists.mp single
      rw [processor_other other]
      simp [other]
  case unknown =>
    intro key hashable
    by_cases single : ∃ c, key = .text [c]
    · obtain ⟨c, rfl⟩ := single
      rw [processor_text, held]
      have none := @lookup_reverse_eq_none_iff c history
      cases found : history.reverse.lookup c <;> simp [found] at none ⊢ <;> simpa using none
    · have other := not_exists.mp single
      rw [processor_other other, hashable]
      simp [other]

end Registry

end InlineDice
