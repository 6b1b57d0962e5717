/-
  Display: a JSON value as a person reads it on a page or in a message.

  A text stands for itself (`shown`); any other value is written as a literal (`literal`), in
  which the texts inside are quoted.  A literal takes single quotes unless the text has single
  quotes and no double ones, and writes as themselves only characters that print (`isPrintable`).

  A value can be displayed, and can be saved, if every whole number inside of it has few enough
  digits to be written; `writable` is that test.
-/
import PrinterConsole.Json.Basic
import PrinterConsole.Number.Printed
import PrinterConsole.Text.Printable

namespace PrinterConsole

open PrinterConsole.Number PrinterConsole.Text

/-- The hexadecimal digits of `n`, at least `width` of them. -/
def hexText (width n : Nat) : List Char :=
  let ds := Nat.toDigits 16 n
  List.replicate (width - ds.length) '0' ++ ds

/-- A character as it stands between quotes of the kind `quote`. -/
def literalChar (quote c : Char) : List Char :=
  if c == quote || c == '\\' then ['\\', c]
  else if c == '\n' then ['\\', 'n']
  else if c == '\r' then ['\\', 'r']
  else if c == '\t' then ['\\', 't']
  else if isPrintable c then [c]
  else if c.toNat < 0x100 then '\\' :: 'x' :: hexText 2 c.toNat
  else if c.toNat < 0x10000 then '\\' :: 'u' :: hexText 4 c.toNat
  else '\\' :: 'U' :: hexText 8 c.toNat

/-- The text `s` between quotes, as a literal has it. -/
def quoted (s : String) : String :=
  let cs := s.toList
  let quote := if cs.contains '\'' && !cs.contains '"' then '"' else '\''
  String.ofList (quote :: cs.flatMap (literalChar quote) ++ [quote])

namespace Json

mutual
/-- A `Json` value as a literal. -/
def literal : Json → String
  | null => "None"
  | bool true => "True"
  | bool false => "False"
  | int n => intText n
  | float x => x.exactText
  | string s => quoted s
  | array items => "[" ++ String.intercalate ", " (literals items) ++ "]"
  | object members => "\x7b" ++ String.intercalate ", " (memberLiterals members) ++ "\x7d"

def literals : List Json → List String
  | [] => []
  | x :: xs => literal x :: literals xs

def memberLiterals : List (String × Json) → List String
  | [] => []
  | m :: ms => (quoted m.1 ++ ": " ++ literal m.2) :: memberLiterals ms
end

mutual
/-- Every whole number inside can be written (`isWritable`).  Keys and fractions can always be. -/
def writable : Json → Bool
  | int n => isWritable n
  | array items => writableItems items
  | object members => writableMembers members
  | _ => true

def writableItems : List Json → Bool
  | [] => true
  | x :: xs => writable x && writableItems xs

def writableMembers : List (String × Json) → Bool
  | [] => true
  | m :: ms => writable m.2 && writableMembers ms
end

/-- A value as it is shown: a text as itself, anything else as a `literal`. -/
def shown : Json → String
  | string s => s
  | other => literal other

end Json

end PrinterConsole
