/-
  Coercions: what a loaded value stands for where a number, a text, a list or a record is needed.

  A whole number may be given as a number, a truth value or a numeral; a list as a list, as the
  characters of a text or as the keys of an object.
-/
import PrinterConsole.Fault

namespace PrinterConsole

open PrinterConsole.Number

namespace Json

/-- The whole number that `v` stands for; a fraction is dropped.  A text must be a numeral as a
    whole (`readInt`), not just begin with one. -/
def toWhole : Json → Except Fault Int
  | int n => .ok n
  | bool b => .ok (wholeOfBool b)
  | float x =>
    match x with
    | .nan => .error .badNumeral
    | _ => match x.truncate? with
      | some n => .ok n
      | none => .error .tooLarge
  | string s =>
    match readInt s.toList with
    | some n => .ok n
    | none => .error .badNumeral
  | _ => .error .notNumber

/-- The items that `v` stands for. -/
def toItems : Json → Except Fault (List Json)
  | array items => .ok items
  | string s => .ok (s.toList.map fun c => string (String.singleton c))
  | object members => .ok (members.map fun m => string m.1)
  | _ => .error .notList

/-- The members of a record. -/
def toRecord : Json → Except Fault (List (String × Json))
  | object members => .ok members
  | _ => .error .notRecord

/-- The member under `key`, or `absent` in for it. -/
def memberD (members : List (String × Json)) (key : String) (absent : Json) : Json :=
  (lookup members key).getD absent

end Json

end PrinterConsole
