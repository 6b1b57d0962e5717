/-
  Character references: `&name;` and `&#number;` in a text, and what they stand for.

  A name counts with its semicolon (`named?`), and some old names also without it (`oldNamed?`).
  Where a longer name does not exist the longest old name at its start counts (`longestOldName`).
  A number stands for its code point; some numbers stand for another character or for none
  (`ofCode`), and a decimal number must not have more than `maxDigits` digits.

  `reference` reads one reference and `resolve` all of a text, from left to right.  What a
  reference stands for is not looked at again, so a text is not resolved further than once.
-/
import PrinterConsole.Fault
import PrinterConsole.Markup.Names.LowerAL
import PrinterConsole.Markup.Names.LowerMZ
import PrinterConsole.Markup.Names.Upper
import PrinterConsole.Number.Numeral
import PrinterConsole.Text.Part

namespace PrinterConsole.Markup

open PrinterConsole.Number PrinterConsole.Text

/-! ## Names -/

/-- All names, without their semicolon, and what they stand for. -/
def names : List (String × String) := Names.fromUpper ++ Names.fromLowerAL ++ Names.fromLowerMZ

/-- The names that also count without a semicolon. -/
def oldNames : List String := [
  "AElig", "AMP", "Aacute", "Acirc", "Agrave", "Aring", "Atilde", "Auml", "COPY", "Ccedil", "ETH",
  "Eacute", "Ecirc", "Egrave", "Euml", "GT", "Iacute", "Icirc", "Igrave", "Iuml", "LT", "Ntilde",
  "Oacute", "Ocirc", "Ograve", "Oslash", "Otilde", "Ouml", "QUOT", "REG", "THORN", "Uacute",
  "Ucirc", "Ugrave", "Uuml", "Yacute", "aacute", "acirc", "acute", "aelig", "agrave", "amp",
  "aring", "atilde", "auml", "brvbar", "ccedil", "cedil", "cent", "copy", "curren", "deg",
  "divide", "eacute", "ecirc", "egrave", "eth", "euml", "frac12", "frac14", "frac34", "gt",
  "iacute", "icirc", "iexcl", "igrave", "iquest", "iuml", "laquo", "lt", "macr", "micro",
  "middot", "nbsp", "not", "ntilde", "oacute", "ocirc", "ograve", "ordf", "ordm", "oslash",
  "otilde", "ouml", "para", "plusmn", "pound", "quot", "raquo", "reg", "sect", "shy", "sup1",
  "sup2", "sup3", "szlig", "thorn", "times", "uacute", "ucirc", "ugrave", "uml", "uuml", "yacute",
  "yen", "yuml"]

/-- What `name` stands for when a semicolon follows it; case matters. -/
def named? (name : List Char) : Option (List Char) :=
  (names.lookup (String.ofList name)).map String.toList

/-- What an old name stands for without a semicolon.  The same as with one, as there is one table of
    `names`. -/
def oldNamed? (name : List Char) : Option (List Char) :=
  if oldNames.contains (String.ofList name) then named? name else none

/-- Some name begins with `front`; it need not be a name itself. -/
def isNameStart (front : List Char) : Bool := names.any fun n => front.isPrefixOf n.1.toList

/-! ## Numbers -/

/-- Numbers that stand for another character than their code point. -/
def replacedCodes : List (Nat × Char) := [
  (0x0, '\ufffd'), (0xD, '\u000d'), (0x80, '\u20ac'), (0x81, '\u0081'), (0x82, '\u201a'),
  (0x83, '\u0192'), (0x84, '\u201e'), (0x85, '\u2026'), (0x86, '\u2020'), (0x87, '\u2021'),
  (0x88, '\u02c6'), (0x89, '\u2030'), (0x8A, '\u0160'), (0x8B, '\u2039'), (0x8C, '\u0152'),
  (0x8D, '\u008d'), (0x8E, '\u017d'), (0x8F, '\u008f'), (0x90, '\u0090'), (0x91, '\u2018'),
  (0x92, '\u2019'), (0x93, '\u201c'), (0x94, '\u201d'), (0x95, '\u2022'), (0x96, '\u2013'),
  (0x97, '\u2014'), (0x98, '\u02dc'), (0x99, '\u2122'), (0x9A, '\u0161'), (0x9B, '\u203a'),
  (0x9C, '\u0153'), (0x9D, '\u009d'), (0x9E, '\u017e'), (0x9F, '\u0178')]

/-- Runs of numbers that stand for no character: first and last. -/
def emptyCodes : List (Nat × Nat) := [
  (0x1, 0x8), (0xB, 0xB), (0xE, 0x1F), (0x7F, 0x9F), (0xFDD0, 0xFDEF), (0xFFFE, 0xFFFF),
  (0x1FFFE, 0x1FFFF), (0x2FFFE, 0x2FFFF), (0x3FFFE, 0x3FFFF), (0x4FFFE, 0x4FFFF),
  (0x5FFFE, 0x5FFFF), (0x6FFFE, 0x6FFFF), (0x7FFFE, 0x7FFFF), (0x8FFFE, 0x8FFFF),
  (0x9FFFE, 0x9FFFF), (0xAFFFE, 0xAFFFF), (0xBFFFE, 0xBFFFF), (0xCFFFE, 0xCFFFF),
  (0xDFFFE, 0xDFFFF), (0xEFFFE, 0xEFFFF), (0xFFFFE, 0xFFFFF), (0x10FFFE, 0x10FFFF)]

/-- What a number stands for: another character (`replacedCodes`), the replacement character if it
    is no code point, nothing (`emptyCodes`), or its own code point. -/
def ofCode (n : Nat) : List Char :=
  match replacedCodes.lookup n with
  | some c => [c]
  | none =>
    if (0xD800 ≤ n ∧ n ≤ 0xDFFF) ∨ 0x10FFFF < n then ['\ufffd']
    else if emptyCodes.any fun r => r.1 ≤ n && n ≤ r.2 then []
    else [Char.ofNat n]

/-- The value of a hexadecimal digit. -/
def hexDigitValue (c : Char) : Nat :=
  if c.toNat ≤ 57 then c.toNat - 48 else if c.toNat ≤ 70 then c.toNat - 55 else c.toNat - 87

/-- A hexadecimal digit, of either case. -/
def isHexDigit (c : Char) : Bool :=
  isAsciiDigit c || ('a' ≤ c && c ≤ 'f') || ('A' ≤ c && c ≤ 'F')

/-- The value of the hexadecimal digits `cs`, of any number. -/
def hexValue (cs : List Char) : Nat := cs.foldl (fun n c => 16 * n + hexDigitValue c) 0

/-! ## References -/

/-- A text without the semicolon at its start, if there is one. -/
def dropSemicolon : List Char → List Char
  | ';' :: rest => rest
  | cs => cs

/-- The character `c` can stand in a name. -/
def isNameChar (c : Char) : Bool :=
  !(c == '\t' || c == '\n' || c == '\x0c' || c == ' ' || c == '<' || c == '&' || c == '#' ||
    c == ';')

/-- What the name characters after an ampersand stand for, when no semicolon follows or the whole
    name does not exist: the longest of `oldNames` of at least two characters at their start. -/
def longestOldName (name : List Char) : Nat → Option (List Char)
  | 0 | 1 => none
  | n + 2 =>
    match oldNamed? (name.take (n + 2)) with
    | some cs => some (cs ++ name.drop (n + 2))
    | none => longestOldName name (n + 1)

/-- The value of a reference by name and what follows it, read after the ampersand.  A name is
    searched with `named?` among the first 32 characters that can stand in one; if none exists, the
    characters stand for themselves, the ampersand included. -/
def nameReference (cs : List Char) : List Char × List Char :=
  let name := (cs.take 32).takeWhile isNameChar
  let rest := cs.drop name.length
  let closed := rest.head? == some ';'
  let whole := if closed then named? name else oldNamed? name
  let semicolon := if closed then [';'] else []
  let value :=
    match whole with
    | some v => v
    | none =>
      match longestOldName name (if closed then name.length else name.length - 1) with
      | some v => v ++ semicolon
      | none => '&' :: name ++ semicolon
  (value, if closed then rest.drop 1 else rest)

/-- The value of the reference after an ampersand and what follows it.  An ampersand that begins no
    reference stands for itself.  The one fault is a decimal number of more than `maxDigits` digits;
    a hexadecimal one may have any length. -/
def reference (cs : List Char) : Except Fault (List Char × List Char) :=
  match cs with
  | '#' :: rest =>
    match rest.takeWhile isAsciiDigit with
    | d :: ds =>
      match wholeOf false ((d :: ds).filterMap digitValue?) with
      | some n => .ok (ofCode n.toNat, dropSemicolon (rest.dropWhile isAsciiDigit))
      | none => .error .badNumeral
    | [] =>
      match rest with
      | x :: more =>
        if (x = 'x' ∨ x = 'X') ∧ more.takeWhile isHexDigit ≠ [] then
          .ok (ofCode (hexValue (more.takeWhile isHexDigit)),
            dropSemicolon (more.dropWhile isHexDigit))
        else .ok (['&'], cs)
      | [] => .ok (['&'], cs)
  | _ =>
    if (cs.take 1).all isNameChar && !cs.isEmpty then .ok (nameReference cs)
    else .ok (['&'], cs)

/-- Replaces the references of a text.  Every reference is read from the characters after its
    ampersand, so as many rounds of `fuel` as there are characters are enough. -/
def resolveFuel : Nat → List Char → Except Fault (List Char)
  | 0, cs => .ok cs
  | _ + 1, [] => .ok []
  | fuel + 1, c :: rest =>
    if c = '&' then
      match reference rest with
      | .error e => .error e
      | .ok (value, left) => (resolveFuel fuel left).map (value ++ ·)
    else (resolveFuel fuel rest).map (c :: ·)

/-- Replaces the references of the text `cs` by what they stand for, once. -/
def resolve (cs : List Char) : Except Fault (List Char) := resolveFuel cs.length cs

end PrinterConsole.Markup
