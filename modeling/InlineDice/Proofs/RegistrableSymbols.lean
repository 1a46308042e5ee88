import InlineDice.Proofs.LineGrammar
import InlineDice.Proofs.PipelineFaults
import InlineDice.Proofs.RegistryGrowth
import InlineDice.Proofs.RollCourse
import InlineDice.Proofs.TokenLimits

namespace InlineDice

open Notation

namespace Notation

/-- The numbers of a token in decimal, and any text behind them. -/
def written (count faces : Nat) (s : Text) : Text :=
  Nat.toDigits 10 count ++ 'd' :: (Nat.toDigits 10 faces ++ s)

def Spelling.ofNumbers (count faces : Nat) (c : Char) (noDigit : c.isDigit = false)
    (bare : isSeparator c = false) : Spelling where
  count := Nat.toDigits 10 count
  faces := Nat.toDigits 10 faces
  mark := some c
  count_digits _ member := Nat.isDigit_of_mem_toDigits (by decide) (by decide) member
  faces_digits _ member := Nat.isDigit_of_mem_toDigits (by decide) (by decide) member
  faces_ne_nil := Nat.toDigits_ne_nil
  mark_free _ same := Option.some.inj same ▸ ⟨noDigit, bare⟩

/-- The processor of a token that can be read is a symbol that the notation leaves free. -/
theorem isReserved_eq_false_of_parse {known : Char → Bool} {t : Text} {token : Token} {c : Char}
    (solid : IsSolid t) (read : Token.parse known t = .ok token)
    (named : token.processor = some c) : Registry.isReserved c = false := by
  obtain ⟨w, rfl⟩ := isToken_of_parse solid read
  obtain ⟨-, -, -, rfl⟩ := w.parse_eq_ok_iff.mp read
  exact Registry.isReserved_eq_false_iff.mpr (w.mark_free c named)

/-- Numbers within the limits and a free symbol make one token, which is recognized and read as what it
was made of. -/
theorem written_reads {count faces : Nat} {c : Char} (free : Registry.isReserved c = false)
    (counts : 1 ≤ count ∧ count ≤ maxDice) (sides : 1 ≤ faces ∧ faces ≤ maxFaces)
    {known : Char → Bool} (holds : known c = true) :
    tokenize (written count faces [c]) = [written count faces [c]] ∧
      recognize (written count faces [c]) = some (written count faces [c]) ∧
      Token.parse known (written count faces [c]) =
        .ok ⟨written count faces [c], count, faces, some c⟩ := by
  obtain ⟨noDigit, bare⟩ := Registry.isReserved_eq_false_iff.mp free
  let w := Spelling.ofNumbers count faces c noDigit bare
  have spelled : w.text = written count faces [c] := rfl
  rw [← spelled]
  have span : IsSpan w.text := .token ⟨w, rfl⟩
  refine ⟨tokenize_of_isSolid w.text_isSolid, ?recognized, ?read⟩
  case recognized => exact recognize_eq_some_iff.mpr ⟨span, [], [], by simp, by simp, by simp⟩
  case read =>
    -- The larger limit has seven digits, so no number within either one is too long to be read.
    have short {n : Nat} (small : n ≤ maxFaces) : (Nat.toDigits 10 n).length ≤ numeralLimit := by
      have room : maxFaces < 10 ^ 7 := by decide
      have few := (Nat.length_toDigits_le_iff (by decide) (by decide)).mpr (small.trans_lt room)
      exact few.trans (by decide)
    have given : w.count ≠ [] := Nat.toDigits_ne_nil
    have countValue : Nat.ofDigitChars 10 w.count 0 = count := Nat.ofDigitChars_ten_toDigits
    have facesValue : Nat.ofDigitChars 10 w.faces 0 = faces := Nat.ofDigitChars_ten_toDigits
    refine w.parse_eq_ok_iff.mpr
      ⟨short (counts.2.trans (by decide)), short sides.2, ⟨.inr ?_, ?_, ?_⟩, ?_⟩
    · rwa [countValue]
    · rwa [facesValue]
    · exact fun _ same => Option.some.inj same ▸ holds
    · rw [Spelling.token, if_neg given, if_neg given, countValue, facesValue]
      rfl

end Notation

namespace Registry

variable {r after : Registry} {symbol : Datum} {offer : Offer}

/-- A symbol that could be registered, and is not. -/
def IsMissing (r : Registry) (symbol : Datum) : Prop :=
  ∃ c, symbol = .text [c] ∧ isReserved c = false ∧ r.contains c = false

/-- A fault tells of no unknown processor but of a missing one. -/
def AccountsFor (r : Registry) (fault : Fault) : Prop :=
  ∀ symbol, fault = .unknownProcessor symbol → r.IsMissing symbol

theorem register_text_iff {s : Text} {p : Processor}
    (callable : p.parameters.all Parameters.acceptOne = true) :
    (∃ after, r.register (.text s) (.processor p) = .ok after) ↔
      ∃ c, s = [c] ∧ isReserved c = false := by
  simp only [register_eq_ok_iff, Prod.exists, entryOf?_eq_some_iff]
  constructor
  · rintro ⟨_, c, _, ⟨⟨single, free⟩, -⟩, -⟩
    exact ⟨c, Datum.text.inj single, free⟩
  · rintro ⟨c, rfl, free⟩
    exact ⟨_, c, p, ⟨⟨rfl, free⟩, rfl, callable⟩, rfl⟩

/-- A symbol is accepted exactly if numbers with it behind them are one token of that processor. -/
theorem register_iff_named (r : Registry) {p : Processor}
    (callable : p.parameters.all Parameters.acceptOne = true) (s : Text) {count faces : Nat}
    (counts : 1 ≤ count ∧ count ≤ maxDice) (sides : 1 ≤ faces ∧ faces ≤ maxFaces) :
    (∃ after, r.register (.text s) (.processor p) = .ok after) ↔
      tokenize (written count faces s) = [written count faces s] ∧
        ∃ token, Token.parse (fun c => [c] = s) (written count faces s) = .ok token ∧
          token.count = count ∧ token.faces = faces ∧
          token.processor.map (fun c => [c]) = some s := by
  rw [register_text_iff callable]
  constructor
  · rintro ⟨c, rfl, free⟩
    obtain ⟨alone, -, read⟩ :=
      @written_reads count faces c free counts sides (fun d => [d] = [c]) (by simp)
    exact ⟨alone, _, read, rfl, rfl, rfl⟩
  · rintro ⟨alone, token, read, -, -, named⟩
    obtain ⟨c, atMark, rfl⟩ := Option.map_eq_some_iff.mp named
    have solid := isSolid_of_mem_tokenize (alone ▸ List.mem_singleton_self _)
    exact ⟨c, rfl, isReserved_eq_false_of_parse solid read atMark⟩

theorem IsMissing.register (missing : r.IsMissing symbol) {p : Processor}
    (callable : p.parameters.all Parameters.acceptOne = true) :
    ∃ after, r.register symbol (.processor p) = .ok after := by
  obtain ⟨c, rfl, free, -⟩ := missing
  exact (register_text_iff callable).mpr ⟨c, rfl, free⟩

theorem FailsApart.register (apart : r.FailsApart) {p : Processor} (own : p.FailsApart)
    (made : r.register symbol (.processor p) = .ok after) : after.FailsApart := by
  obtain ⟨⟨c, q⟩, entry, rfl⟩ := register_eq_ok_iff.mp made
  obtain ⟨-, same, -⟩ := entryOf?_eq_some_iff.mp entry
  cases same
  intro held member
  rcases mem_entries_insert member with rfl | earlier
  · exact own
  · exact apart held earlier

theorem not_isMissing_of_register (made : r.register symbol offer = .ok after) :
    ¬after.IsMissing symbol := by
  rintro ⟨c, rfl, -, absent⟩
  obtain ⟨⟨d, p⟩, entry, rfl⟩ := register_eq_ok_iff.mp made
  obtain ⟨⟨single, -⟩, -⟩ := entryOf?_eq_some_iff.mp entry
  cases single
  rw [contains, find?_insert, if_pos rfl] at absent
  cases absent

end Registry

namespace Pipeline

variable {σ : Type} [RandomSource σ] {p : Pipeline} {text : Text} {symbol : Datum}

theorem isMissing_of_tokens (unread : p.tokens text = .error (.unknownProcessor symbol)) :
    p.registry.IsMissing symbol := by
  rcases tokens_eq_error_iff.mp unread with failed | ⟨-, other⟩
  · obtain ⟨before, t, after, split, -, atFirst⟩ := mapM_eq_error_iff.mp failed
    obtain ⟨c, rfl, absent, token, read, named⟩ := Token.parse_eq_unknownProcessor_iff.mp atFirst
    have solid := isSolid_of_mem_tokenize (s := text) (t := t) (by simp [split])
    exact ⟨c, rfl, isReserved_eq_false_of_parse solid read named, absent⟩
  · cases other

/-- Whatever way a text takes into a pipeline, an unknown processor is one that is missing there. -/
theorem enter_failsIn_accountsFor (apart : p.registry.FailsApart) (entry : Entry) :
    (p.enter entry : Play σ Answer).FailsIn p.registry.AccountsFor := by
  have rolls : ∀ text, (p.roll text : Play σ Text).FailsIn p.registry.AccountsFor := by
    rintro text source _ failed symbol rfl
    exact isMissing_of_tokens (tokens_of_isDice apart rfl failed)
  exact enter_failsIn rolls (fun line symbol => nofun) entry

/-- Every processor of a registry that has grown is asked for by some dice line. -/
theorem tokens_written {history : List (Char × Processor)} (grown : p.registry.GrownBy history)
    {c : Char} {processor : Processor} (member : (c, processor) ∈ p.registry.entries)
    {count faces : Nat} (counts : 1 ≤ count ∧ count ≤ maxDice)
    (sides : 1 ≤ faces ∧ faces ≤ maxFaces) :
    recognize (written count faces [c]) = some (written count faces [c]) ∧
      p.tokens (written count faces [c]) = .ok [⟨written count faces [c], count, faces, some c⟩] ∧
      p.registry.processor (.text [c]) = .ok processor := by
  obtain ⟨⟨-, free⟩, -⟩ := Registry.entryOf?_eq_some_iff.mp (grown.usable_entries _ member)
  have held := Registry.find?_of_mem grown.nodup member
  have holds : p.registry.contains c = true := by
    rw [Registry.contains, held]
    rfl
  obtain ⟨alone, recognized, read⟩ := written_reads free counts sides holds
  refine ⟨recognized, tokens_eq_ok_iff.mpr ⟨?_, List.cons_ne_nil _ _⟩, ?_⟩
  · rw [alone, mapM_eq_ok_iff]
    exact .cons read .nil
  · rw [Registry.processor_text, held]
    rfl

/-- What can be registered is what the notation can name. A symbol is accepted exactly if numbers with
the symbol behind them are one token of that processor, and such a token is a dice line of its own.
So every processor in a registry can be asked for. And a symbol that a text asks for in vain can be
registered, after which reading that text no longer comes to the same complaint. Nor does any other way into
the pipeline, as long as no processor makes up complaints about the text. -/
theorem registrable_iff_nameable (σ : Type) [RandomSource σ] :
    (∀ (r : Registry) (processor : Processor) (s : Text) (count faces : Nat),
      processor.parameters.all Parameters.acceptOne = true →
      1 ≤ count ∧ count ≤ maxDice → 1 ≤ faces ∧ faces ≤ maxFaces →
        ((∃ after, r.register (.text s) (.processor processor) = .ok after) ↔
          tokenize (written count faces s) = [written count faces s] ∧
            ∃ token, Token.parse (fun c => [c] = s) (written count faces s) = .ok token ∧
              token.count = count ∧ token.faces = faces ∧
              token.processor.map (fun c => [c]) = some s) ∧
        ((∃ after, r.register (.text s) (.processor processor) = .ok after) →
          recognize (written count faces s) = some (written count faces s))) ∧
    (∀ (p : Pipeline) (history : List (Char × Processor)), p.registry.GrownBy history →
      ∀ (c : Char) (processor : Processor), (c, processor) ∈ p.registry.entries →
      ∀ count faces : Nat, 1 ≤ count ∧ count ≤ maxDice → 1 ≤ faces ∧ faces ≤ maxFaces →
        recognize (written count faces [c]) = some (written count faces [c]) ∧
        p.tokens (written count faces [c]) = .ok [⟨written count faces [c], count, faces, some c⟩] ∧
        p.registry.processor (.text [c]) = .ok processor) ∧
    (∀ (p : Pipeline) (text : Text) (symbol : Datum) (processor : Processor),
      p.tokens text = .error (.unknownProcessor symbol) →
      processor.parameters.all Parameters.acceptOne = true →
        ∃ after, p.registry.register symbol (.processor processor) = .ok after ∧
          { p with registry := after }.tokens text ≠ .error (.unknownProcessor symbol)) ∧
    ∀ (p : Pipeline) (entry : Entry) (source : σ) (symbol : Datum) (processor : Processor),
      p.registry.FailsApart → processor.FailsApart →
      ((p.enter entry).run source).outcome = .error (.unknownProcessor symbol) →
      processor.parameters.all Parameters.acceptOne = true →
        ∃ after, p.registry.register symbol (.processor processor) = .ok after ∧
          ∀ again : σ, (({ p with registry := after }.enter entry).run again).outcome ≠
            .error (.unknownProcessor symbol) := by
  refine ⟨?named, ?reached, ?read, ?entered⟩
  case named =>
    intro r processor s count faces callable counts sides
    refine ⟨r.register_iff_named callable s counts sides, fun accepted => ?_⟩
    obtain ⟨c, rfl, free⟩ := (Registry.register_text_iff callable).mp accepted
    exact (@written_reads count faces c free counts sides (fun _ => true) rfl).2.1
  case reached =>
    intro p history grown c processor member count faces counts sides
    exact tokens_written grown member counts sides
  case read =>
    intro p text symbol processor unread callable
    obtain ⟨after, made⟩ := (isMissing_of_tokens unread).register callable
    exact ⟨after, made, fun same => Registry.not_isMissing_of_register made
      (isMissing_of_tokens same)⟩
  case entered =>
    intro p entry source symbol processor apart own failed callable
    have missing := enter_failsIn_accountsFor apart entry source _ failed symbol rfl
    obtain ⟨after, made⟩ := missing.register callable
    refine ⟨after, made, fun again same => Registry.not_isMissing_of_register made ?_⟩
    have stillApart : { p with registry := after }.registry.FailsApart := apart.register own made
    exact enter_failsIn_accountsFor stillApart entry again _ same symbol rfl

theorem registrable_iff_nameable_exclamation_mark :
    tokenize "2d6!".toList = ["2d6!".toList] ∧
      recognize "2d6!".toList = some "2d6!".toList ∧
      default.tokens "1000d6+".toList = .ok [⟨"1000d6+".toList, 1000, 6, some '+'⟩] ∧
      (∃ after, Registry.builtin.register (.text ['!']) (.processor .total) = .ok after ∧
        { default with registry := after }.tokens "2d6!".toList ≠
          .error (.unknownProcessor (.text ['!']))) ∧
      ∃ after, Registry.builtin.register (.text ['!']) (.processor .total) = .ok after ∧
        ∀ again : Lowest, (({ default with registry := after }.enter (.roll "2d6!".toList)).run
          again).outcome ≠ .error (.unknownProcessor (.text ['!'])) := by
  obtain ⟨named, reached, mended, entered⟩ := registrable_iff_nameable Lowest
  have callable : Processor.total.parameters.all Parameters.acceptOne = true := by decide
  have accepted : ∃ after, Registry.builtin.register (.text ['!']) (.processor .total) = .ok after :=
    ⟨_, rfl⟩
  have atPlus : ('+', .total) ∈ default.registry.entries :=
    List.mem_cons_of_mem _ (List.mem_cons_of_mem _ (List.mem_cons_self ..))
  have unread : default.tokens "2d6!".toList = .error (.unknownProcessor (.text ['!'])) := by rfl
  have failed : ((default.enter (.roll "2d6!".toList)).run Lowest.lowest).outcome =
      .error (.unknownProcessor (.text ['!'])) := by rfl
  have apart : Processor.total.FailsApart := Registry.builtin_failsApart _ atPlus
  obtain ⟨exactly, recognized⟩ :=
    named .builtin .total ['!'] 2 6 callable (by decide) (by decide)
  obtain ⟨-, read, -⟩ := reached default _ .builtin '+' .total atPlus 1000 6 (by decide) (by decide)
  exact ⟨(exactly.mp accepted).1, recognized accepted, read,
    mended default _ _ .total unread callable,
    entered default _ _ _ .total Registry.builtin_failsApart apart failed callable⟩

end Pipeline

end InlineDice
