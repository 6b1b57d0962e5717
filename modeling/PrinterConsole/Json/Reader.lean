/-
  Reading JSON text.

  The grammar is the standard one with three spelled-out numbers besides (`NaN`, `Infinity`,
  `-Infinity`).  Of members with one key the last counts.  A text is refused either because it is
  malformed or because it holds a whole number of more than `maxDigits` digits; reading goes from
  left to right and the first refusal counts.

  Readers take the rest of the text and give back what follows.  Nesting is bounded by a fuel that
  is the length of the text: each step down reads at least one character, and brackets come in
  pairs, so a well-formed text never runs out of it (`read` gives one more than there are
  characters).

  Strings are read in two steps, since a character beyond the sixteen-bit range is written as two
  escapes: `stringUnits` reads code units up to the closing quote, and `ofUnits` joins them to
  characters.
-/
import PrinterConsole.Json.Basic
import PrinterConsole.Number.Numeral

namespace PrinterConsole.Json

open PrinterConsole.Number PrinterConsole.Text

/-- Why a text is refused by `read`. -/
inductive Refusal where
  | malformed
  | longNumeral
  deriving DecidableEq, Repr

/-- White space between tokens. -/
def isSpace (c : Char) : Bool := c == ' ' || c == '\t' || c == '\n' || c == '\r'

/-- What is left after white space. -/
def skipSpace (cs : List Char) : List Char := cs.dropWhile isSpace

/-! ## Strings -/

/-- The value of a hexadecimal digit, of either case. -/
def hexValue? (c : Char) : Option Nat :=
  if '0' ≤ c ∧ c ≤ '9' then some (c.toNat - 48)
  else if 'a' ≤ c ∧ c ≤ 'f' then some (c.toNat - 87)
  else if 'A' ≤ c ∧ c ≤ 'F' then some (c.toNat - 55)
  else none

/-- Whether the character `c` is a hexadecimal digit. -/
def isHexDigit (c : Char) : Bool := (hexValue? c).isSome

/-- The number of the hexadecimal digits `cs`, the first one counting most. -/
def hexNumber (cs : List Char) : Nat := cs.foldl (fun n c => 16 * n + (hexValue? c).getD 0) 0

/-- The character of a one-letter escape. -/
def escapeValue? : Char → Option Nat
  | '"' => some 0x22
  | '\\' => some 0x5C
  | '/' => some 0x2F
  | 'b' => some 0x08
  | 'f' => some 0x0C
  | 'n' => some 0x0A
  | 'r' => some 0x0D
  | 't' => some 0x09
  | _ => none

/-- The code units of a string up to its closing quote, in reverse on top of `acc`, and what follows
    the quote.  A character that stands for itself is a unit too, also one beyond sixteen bits. -/
def stringUnits (acc : List Nat) : List Char → Option (List Nat × List Char)
  | '"' :: rest => some (acc, rest)
  | '\\' :: 'u' :: a :: b :: c :: d :: rest =>
    if [a, b, c, d].all isHexDigit then stringUnits (hexNumber [a, b, c, d] :: acc) rest else none
  | '\\' :: c :: rest =>
    match escapeValue? c with
    | some u => stringUnits (u :: acc) rest
    | none => none
  | c :: rest => if c.toNat < 0x20 then none else stringUnits (c.toNat :: acc) rest
  | [] => none

/-- The characters of code units: a leading and a trailing surrogate make one character, and one
    that stands alone is written as the replacement character, as a text has no place for it. -/
def ofUnits : List Nat → List Char
  | [] => []
  | u :: rest =>
    if 0xD800 ≤ u ∧ u ≤ 0xDFFF then
      match rest with
      | v :: more =>
        if u ≤ 0xDBFF ∧ 0xDC00 ≤ v ∧ v ≤ 0xDFFF then
          Char.ofNat (0x10000 + (u - 0xD800) * 0x400 + (v - 0xDC00)) :: ofUnits more
        else '\uFFFD' :: ofUnits (v :: more)
      | [] => ['\uFFFD']
    else Char.ofNat u :: ofUnits rest
termination_by us => us.length

/-- A string after its opening quote. -/
def readString (cs : List Char) : Except Refusal (String × List Char) :=
  match stringUnits [] cs with
  | some (us, rest) => .ok (String.ofList (ofUnits us.reverse), rest)
  | none => .error .malformed

/-! ## Numbers -/

/-- A fraction with at least one digit, and what follows; a point without a digit after it belongs
    to what follows. -/
def fractionPart : List Char → List Char × List Char
  | '.' :: rest =>
    match rest.takeWhile isAsciiDigit with
    | [] => ([], '.' :: rest)
    | ds => ('.' :: ds, rest.dropWhile isAsciiDigit)
  | cs => ([], cs)

/-- An exponent with at least one digit, and what follows. -/
def exponentText : List Char → List Char × List Char
  | c :: rest =>
    if c == 'e' || c == 'E' then
      let sign := rest.take 1 |>.filter fun s => s == '+' || s == '-'
      let body := rest.drop sign.length
      match body.takeWhile isAsciiDigit with
      | [] => ([], c :: rest)
      | ds => (c :: sign ++ ds, body.dropWhile isAsciiDigit)
    else ([], c :: rest)
  | [] => ([], [])

/-- A whole part, and what follows.  After a zero in front no digit belongs to it. -/
def wholePart : List Char → List Char × List Char
  | '0' :: rest => (['0'], rest)
  | cs => (cs.takeWhile isAsciiDigit, cs.dropWhile isAsciiDigit)

/-- A number after its sign: whole if it has neither a fraction nor an exponent, else a
    `Binary64`. -/
def readNumber (negative : Bool) (cs : List Char) : Except Refusal (Json × List Char) :=
  let (whole, rest) := wholePart cs
  if whole.isEmpty then .error .malformed
  else
    let (fraction, afterFraction) := fractionPart rest
    let (exponent, left) := exponentText afterFraction
    if fraction.isEmpty && exponent.isEmpty then
      match wholeOf negative (whole.filterMap digitValue?) with
      | some n => .ok (.int n, left)
      | none => .error .longNumeral
    else
      match readPositional negative (whole ++ fraction ++ exponent) with
      | some x => .ok (.float x, left)
      | none => .error .malformed

/-! ## Values -/

/-- The value at the start of a text that is neither a string nor a list nor an object. -/
def readScalar : List Char → Except Refusal (Json × List Char)
  | 'n' :: 'u' :: 'l' :: 'l' :: rest => .ok (.null, rest)
  | 't' :: 'r' :: 'u' :: 'e' :: rest => .ok (.bool true, rest)
  | 'f' :: 'a' :: 'l' :: 's' :: 'e' :: rest => .ok (.bool false, rest)
  | 'N' :: 'a' :: 'N' :: rest => .ok (.float .nan, rest)
  | 'I' :: 'n' :: 'f' :: 'i' :: 'n' :: 'i' :: 't' :: 'y' :: rest =>
    .ok (.float (.infinite false), rest)
  | '-' :: 'I' :: 'n' :: 'f' :: 'i' :: 'n' :: 'i' :: 't' :: 'y' :: rest =>
    .ok (.float (.infinite true), rest)
  | '-' :: rest => readNumber true rest
  | cs => readNumber false cs

mutual
/-- A value, at the start of the text.  What is no string, list or object is left to
    `readScalar`. -/
def readValue : Nat → List Char → Except Refusal (Json × List Char)
  | 0, _ => .error .malformed
  | fuel + 1, cs =>
    match cs with
    | '"' :: rest => (readString rest).map fun p => (.string p.1, p.2)
    | '[' :: rest =>
      match skipSpace rest with
      | ']' :: more => .ok (.array [], more)
      | body => readItems fuel [] body
    | '\x7b' :: rest =>
      match skipSpace rest with
      | '\x7d' :: more => .ok (.object [], more)
      | body => readMembers fuel [] body
    | _ => readScalar cs

/-- The items of a list up to its closing bracket, on top of `acc`, those read so far (in
    reverse). -/
def readItems : Nat → List Json → List Char → Except Refusal (Json × List Char)
  | 0, _, _ => .error .malformed
  | fuel + 1, acc, cs =>
    match readValue fuel cs with
    | .error e => .error e
    | .ok (v, rest) =>
      match skipSpace rest with
      | ']' :: more => .ok (.array (v :: acc).reverse, more)
      | ',' :: more => readItems fuel (v :: acc) (skipSpace more)
      | _ => .error .malformed

/-- The members of an object up to its closing brace, on top of `acc`, those read so far. -/
def readMembers : Nat → List (String × Json) → List Char → Except Refusal (Json × List Char)
  | 0, _, _ => .error .malformed
  | fuel + 1, acc, cs =>
    match cs with
    | '"' :: body =>
      match readString body with
      | .error e => .error e
      | .ok (key, rest) =>
        match skipSpace rest with
        | ':' :: after =>
          match readValue fuel (skipSpace after) with
          | .error e => .error e
          | .ok (v, rest') =>
            match skipSpace rest' with
            | '\x7d' :: more => .ok (.object (put acc key v), more)
            | ',' :: more => readMembers fuel (put acc key v) (skipSpace more)
            | _ => .error .malformed
        | _ => .error .malformed
    | _ => .error .malformed
end

/-- Reads the whole `text` as one value, with nothing but white space around it. -/
def read (text : String) : Except Refusal Json :=
  let cs := text.toList
  match readValue (cs.length + 1) (skipSpace cs) with
  | .error e => .error e
  | .ok (v, rest) => if (skipSpace rest).isEmpty then .ok v else .error .malformed

end PrinterConsole.Json
