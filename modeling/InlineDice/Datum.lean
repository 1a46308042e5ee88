import InlineDice.Decimal
import InlineDice.Text.Quoted

namespace InlineDice

/-- A value that a host hands over undecoded, such as the symbol it wants to register. -/
inductive Datum where
  | null
  | bool (b : Bool)
  | integer (n : Int)
  | decimal (d : Decimal)
  | text (s : Text)
  | list (items : List Datum)
  | dict (fields : List (Text × Datum))
  deriving Inhabited

namespace Datum

mutual

/-- The form in which messages show a value. -/
def shown : Datum → Text
  | null => "None".toList
  | bool true => "True".toList
  | bool false => "False".toList
  | integer n => Text.ofInt n
  | decimal d => d.shown
  | text s => Quoted.encode s
  | list items => ['['] ++ Text.join ", ".toList (shownItems items) ++ [']']
  | dict fields => ['\x7b'] ++ Text.join ", ".toList (shownFields fields) ++ ['\x7d']

def shownItems : List Datum → List Text
  | [] => []
  | d :: rest => shown d :: shownItems rest

def shownFields : List (Text × Datum) → List Text
  | [] => []
  | (name, d) :: rest => (Quoted.encode name ++ ": ".toList ++ shown d) :: shownFields rest

end

/-- Lists and dictionaries can change, so they cannot be keys. The name of the kind tells which one a
value is. -/
def changeable? : Datum → Option Text
  | list _ => some "list".toList
  | dict _ => some "dict".toList
  | _ => none

end Datum

end InlineDice
