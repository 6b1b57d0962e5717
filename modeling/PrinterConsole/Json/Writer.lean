/-
  Writing JSON text: one item or member a line, two spaces a level, in ASCII alone.

  Characters outside the printing ASCII range are written as escapes of their code units
  (`unitsOf`), so the text has the same bytes in every encoding that extends ASCII.

  `textAt` follows the value, with the depth of the line it starts on; the brackets of a list that
  is not empty stand on lines of their own.  A value that is `writable` and names no key twice is
  read back from its text as the same value (`read_text`).
-/
import PrinterConsole.Json.Display

namespace PrinterConsole.Json

open PrinterConsole.Number

/-- The UTF-16 code units of the character `c`. -/
def unitsOf (c : Char) : List Nat :=
  let n := c.toNat
  if n < 0x10000 then [n]
  else [0xD800 + (n - 0x10000) / 0x400, 0xDC00 + (n - 0x10000) % 0x400]

/-- The character `c` as it stands in a JSON string: five short escapes, the two quoted signs,
    printing ASCII as itself, and anything else by its code units. -/
def escaped (c : Char) : List Char :=
  match c with
  | '"' => ['\\', '"']
  | '\\' => ['\\', '\\']
  | '\n' => ['\\', 'n']
  | '\r' => ['\\', 'r']
  | '\t' => ['\\', 't']
  | '\x0c' => ['\\', 'f']
  | '\x08' => ['\\', 'b']
  | _ =>
    if 0x20 ≤ c.toNat ∧ c.toNat ≤ 0x7E then [c]
    else (unitsOf c).flatMap fun u => '\\' :: 'u' :: hexText 4 u

/-- The JSON string of `s` with its quotes. -/
def stringText (s : String) : String := String.ofList ('"' :: s.toList.flatMap escaped ++ ['"'])

/-- A number that is not whole, in the fewest digits that read back as it (`Binary64.exactText`). -/
def floatText : Binary64 → String
  | .nan => "NaN"
  | .infinite false => "Infinity"
  | .infinite true => "-Infinity"
  | x => x.exactText

/-- A new line at the given `depth`. -/
def newline (depth : Nat) : String := "\n" ++ String.ofList (List.replicate (2 * depth) ' ')

mutual
/-- A value that starts at the given `depth`. -/
def textAt (depth : Nat) : Json → String
  | null => "null"
  | bool true => "true"
  | bool false => "false"
  | int n => intText n
  | float x => floatText x
  | string s => stringText s
  | array [] => "[]"
  | array (x :: xs) =>
    "[" ++ String.intercalate "," (itemTexts (depth + 1) (x :: xs)) ++ newline depth ++ "]"
  | object [] => "\x7b\x7d"
  | object (m :: ms) =>
    "\x7b" ++ String.intercalate "," (memberTexts (depth + 1) (m :: ms)) ++ newline depth ++
      "\x7d"

def itemTexts (depth : Nat) : List Json → List String
  | [] => []
  | x :: xs => (newline depth ++ textAt depth x) :: itemTexts depth xs

def memberTexts (depth : Nat) : List (String × Json) → List String
  | [] => []
  | m :: ms =>
    (newline depth ++ stringText m.1 ++ ": " ++ textAt depth m.2) :: memberTexts depth ms
end

/-- The text of the value `v`, from the outermost depth on. -/
def text (v : Json) : String := textAt 0 v

end PrinterConsole.Json
