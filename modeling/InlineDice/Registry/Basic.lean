import InlineDice.Fault
import InlineDice.Keyed
import InlineDice.Processor.Summary

namespace InlineDice

/-- Processors by symbol, in the order in which the symbols first came in. -/
structure Registry where
  entries : List (Char × Processor)

namespace Registry

def empty : Registry := ⟨[]⟩

/-- The processors every host starts from. -/
def builtin : Registry :=
  ⟨[('<', .ascending), ('>', .descending), ('+', .total)]⟩

def symbols (r : Registry) : List Char := r.entries.map Prod.fst

def size (r : Registry) : Nat := r.entries.length

/-- The processor under a symbol, if there is one. -/
def find? (r : Registry) (symbol : Char) : Option Processor := r.entries.lookup symbol

def contains (r : Registry) (symbol : Char) : Bool := (r.find? symbol).isSome

theorem contains_iff {r : Registry} {symbol : Char} :
    r.contains symbol = true ↔ symbol ∈ r.symbols :=
  Keyed.lookup_isSome_iff

/-- The processor under a key. Symbols are single characters, so no other value names a processor, and a
value that cannot be a key cannot be looked up. -/
def lookup (r : Registry) (key : Datum) : Except Fault (Option Processor) :=
  match key with
  | .text [symbol] => .ok (r.find? symbol)
  | key =>
    match key.changeable? with
    | some kind => .error (.notKey kind)
    | none => .ok none

/-- Whether there is a processor under a key. -/
def holds (r : Registry) (key : Datum) : Except Fault Bool := Option.isSome <$> r.lookup key

/-- A known symbol gets the new processor in its old place, a new symbol comes last. -/
def insert (r : Registry) (symbol : Char) (p : Processor) : Registry :=
  ⟨Keyed.put symbol p r.entries⟩

/-- Digits and separators belong to the notation. -/
def isReserved (symbol : Char) : Bool := symbol.isDigit || isSeparator symbol

/-- The symbol of a registration. -/
def symbolOf (symbol : Datum) : Except Fault Char :=
  match symbol with
  | .text [c] => if isReserved c then .error (.symbolReserved c) else .ok c
  | _ => .error (.symbolNotSingle symbol)

/-- The processor of a registration, which has to take the rolls and nothing more. Hidden parameters
are trusted. -/
def processorOf (symbol : Char) : Offer → Except Fault Processor
  | .inert => .error (.notCallable symbol)
  | .processor p =>
    match p.parameters with
    | some parameters => if parameters.acceptOne then .ok p else .error (.notUnary symbol)
    | none => .ok p

/-- Adds or replaces the processor of a symbol. -/
def register (r : Registry) (symbol : Datum) (offer : Offer) : Except Fault Registry := do
  let c ← symbolOf symbol
  let p ← processorOf c offer
  return r.insert c p

/-- Registers one after the other, all or none. -/
def registerAll (r : Registry) (offers : List (Datum × Offer)) : Except Fault Registry :=
  offers.foldlM (fun r offer => r.register offer.1 offer.2) r

/-- A registry with the built-in processors or without, and the given ones. -/
def ofOffers (withBuiltin : Bool) (offers : List (Datum × Offer)) : Except Fault Registry :=
  (if withBuiltin then builtin else empty).registerAll offers

/-- The entries of a registry as offers to another. -/
def offers (r : Registry) : List (Datum × Offer) :=
  r.entries.map fun entry => (.text [entry.1], .processor entry.2)

/-- A registry of its own that holds the entries of `r` and then the given ones. -/
def extended (r : Registry) (offers : List (Datum × Offer)) : Except Fault Registry := do
  let copy ← empty.registerAll r.offers
  copy.registerAll offers

/-- The processor under a symbol, or the fault that there is none. -/
def processor (r : Registry) (symbol : Datum) : Except Fault Processor := do
  match ← r.lookup symbol with
  | some p => return p
  | none => .error (.unknownProcessor symbol)

/-- A symbol as a key: the fault shows the key alone. -/
def item (r : Registry) (symbol : Datum) : Except Fault Processor := do
  match ← r.lookup symbol with
  | some p => return p
  | none => .error (.notRegistered symbol)

/-- Rolls after processing, and the rolls of the caller after it. -/
structure Applied where
  result : ProcessedRolls
  input : List Int
  deriving DecidableEq, Repr

/-- Processes rolls by the processor of a symbol; without a symbol they pass unchanged. The list that
a processor works on is a copy, so the rolls of the caller stay as they are. -/
def apply (r : Registry) (symbol : Option Datum) (rolls : List Int) : Except Fault Applied :=
  match symbol with
  | none => .ok ⟨⟨rolls, none⟩, rolls⟩
  | some symbol => do
    let p ← r.processor symbol
    let reply ← p.call rolls
    return ⟨reply.answer, rolls⟩

/-- Every symbol with the first line of its processor's documentation. -/
def describe (r : Registry) : List (Char × Text) :=
  r.entries.map fun entry => (entry.1, Summary.ofProcessor entry.2)

/-- A registry as a message shows it. -/
def shown (r : Registry) : Text :=
  "ProcessorRegistry(".toList ++ Quoted.encode r.symbols ++ ")".toList

end Registry

end InlineDice
