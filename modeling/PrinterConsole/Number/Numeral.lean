/-
  Numerals: the texts that are read as numbers, and the decimal text of a whole number.

  A numeral may be written in the digits of any script, may carry a sign, and may have single
  underscores between its digits (`ungroup`).  White space around it is skipped; the four ASCII
  information separators are not white space here (`isNumeralSpace`), although trimming removes
  them.  A digit run longer than `maxDigits` is no whole number at all (`wholeOf`), which bounds
  the work a submitted text can cause.

  `readInt` reads whole numbers and `readDecimal` decimal ones; the latter have no such limit,
  since a numeral far out of range is decided by its digit count (`ofDecimal`).
-/
import PrinterConsole.Number.Binary64
import PrinterConsole.Text.Blank
import PrinterConsole.Text.Digit

namespace PrinterConsole.Number

open PrinterConsole.Text

/-- The longest digit run that is read or written as a whole number; longer ones are a fault where
    they occur. -/
def maxDigits : Nat := 4300

/-! ## Digit runs -/

/-- The natural whose decimal digits are `ds`, the most significant one first. -/
def digitsValue (ds : List Nat) : Nat := ds.foldl (fun n d => 10 * n + d) 0

/-- The digit values of the longest digit run at the start of `cs`, and the rest, which begins with
    no digit. -/
def digitRun (cs : List Char) : List Nat × List Char :=
  (cs.takeWhile isDigit |>.filterMap digitValue?, cs.dropWhile isDigit)

/-- An optional sign at the start: whether it is a minus sign, and the rest. -/
def signed : List Char → Bool × List Char
  | '+' :: cs => (false, cs)
  | '-' :: cs => (true, cs)
  | cs => (false, cs)

/-- The character `c` is white space that may surround a numeral. -/
def isNumeralSpace (c : Char) : Bool := isBlank c && !(28 ≤ c.toNat && c.toNat ≤ 31)

/-- The text `cs` without the white space around a numeral, at both ends. -/
def stripNumeral (cs : List Char) : List Char :=
  ((cs.dropWhile isNumeralSpace).reverse.dropWhile isNumeralSpace).reverse

/-- Removes single underscores that stand between digits; any other underscore spoils the text. -/
def ungroup (cs : List Char) : Option (List Char) :=
  go false cs
where
  go (afterDigit : Bool) : List Char → Option (List Char)
    | [] => some []
    | '_' :: c :: rest =>
      if afterDigit && isDigit c then (go true rest).map (c :: ·) else none
    | ['_'] => none
    | c :: rest => (go (isDigit c) rest).map (c :: ·)

/-- A signed digit run of at most `maxDigits` digits as a whole number; leading zeros count as
    digits. -/
def wholeOf (negative : Bool) (ds : List Nat) : Option Int :=
  if ds.isEmpty || maxDigits < ds.length then none
  else some (if negative then -(digitsValue ds : Int) else (digitsValue ds : Int))

/-- Reads the whole of `cs` as a whole number: white space, a sign, digits; nothing may be left
    over. -/
def readInt (cs : List Char) : Option Int := do
  let body ← ungroup (stripNumeral cs)
  let (negative, rest) := signed body
  match digitRun rest with
  | (ds, []) => wholeOf negative ds
  | _ => none

/-! ## Decimal numerals -/

/-- The value of `coefficient * 10 ^ exponent`.  A magnitude whose decimal point is far outside the
    range of values is decided by its digit count alone. -/
def ofDecimal (negative : Bool) (ds : List Nat) (exponent : Int) : Binary64 :=
  let significant := ds.dropWhile (· == 0)
  let point : Int := significant.length + exponent
  if significant.isEmpty || point < -330 then .ofRatio negative 0 1
  else if 310 < point then .infinite negative
  else if 0 ≤ exponent then
    .ofRatio negative (digitsValue significant * Nat.pow 10 exponent.toNat) 1
  else
    .ofRatio negative (digitsValue significant) (Nat.pow 10 (-exponent).toNat)

/-- An exponent part `e`, sign, digits; none of it if it is not complete. -/
def exponentPart (cs : List Char) : Int × List Char :=
  match cs with
  | c :: rest =>
    if c == 'e' || c == 'E' then
      let (negative, body) := signed rest
      match digitRun body with
      | ([], _) => (0, cs)
      | (ds, rest') => (if negative then -(digitsValue ds : Int) else digitsValue ds, rest')
    else (0, cs)
  | [] => (0, [])

/-- The value that `cs` spells out, in any case. -/
def spelled (negative : Bool) (cs : List Char) : Option Binary64 :=
  let word := String.ofList (cs.map Char.toLower)
  if word == "inf" || word == "infinity" then some (.infinite negative)
  else if word == "nan" then some .nan
  else none

/-- The digits after a point, if a point comes next. -/
def fractionRun : List Char → List Nat × List Char
  | '.' :: more => digitRun more
  | cs => ([], cs)

/-- Digits with at most one point among them, and an exponent: `5`, `5.`, `.5`, `5e-3`. -/
def readPositional (negative : Bool) (cs : List Char) : Option Binary64 :=
  let (whole, afterWhole) := digitRun cs
  let (fraction, rest) := fractionRun afterWhole
  let (exponent, left) := exponentPart rest
  if left.isEmpty && !(whole.isEmpty && fraction.isEmpty) then
    some (ofDecimal negative (whole ++ fraction) (exponent - fraction.length))
  else none

/-- Reads the whole of `cs` as a decimal number: white space, a sign, digits with a point and an
    exponent, or a spelled-out value; nothing may be left over. -/
def readDecimal (cs : List Char) : Option Binary64 := do
  let body ← ungroup (stripNumeral cs)
  let (negative, rest) := signed body
  (spelled negative rest).or (readPositional negative rest)

/-! ## Writing whole numbers -/

/-- The decimal digits of the natural `n`, without leading zeros. -/
def natText (n : Nat) : String := String.ofList (Nat.toDigits 10 n)

/-- The decimal text of a whole number, with `natText` behind its sign. -/
def intText : Int → String
  | .ofNat n => natText n
  | .negSucc n => "-" ++ natText (n + 1)

/-- The text of `n` has at most `maxDigits` digits. -/
def isWritable (n : Int) : Bool := n.natAbs < Nat.pow 10 maxDigits

end PrinterConsole.Number
