import InlineDice.Registry.Basic

namespace InlineDice

/-- Registries by name. One of a name given again takes its place. -/
structure Family where
  members : List (Text × Registry)

namespace Family

def get? (f : Family) (name : Text) : Option Registry := f.members.lookup name

def set (f : Family) (name : Text) (r : Registry) : Family := ⟨Keyed.put name r f.members⟩

/-- What can be done to a family: register in one of its members, or make an extended copy of one. -/
inductive Change where
  | register (on : Text) (symbol : Datum) (offer : Offer)
  | extend (on as : Text) (offers : List (Datum × Offer))

/-- The registry that a change makes, and its name. A change on a name that is not there is none. -/
def made? (f : Family) : Change → Option (Text × Except Fault Registry)
  | .register on symbol offer => (f.get? on).map fun r => (on, r.register symbol offer)
  | .extend on as offers => (f.get? on).map fun r => (as, r.extended offers)

/-- Makes a change. One that fails leaves every registry as it was and adds none. -/
def change (f : Family) (c : Change) : Family :=
  match f.made? c with
  | some (name, .ok r) => f.set name r
  | _ => f

end Family

end InlineDice
