/-
  Labels: the English wording of a keyword on a page.

  Some keywords have a wording of their own (`wording?`).  A media size is named, or stated in
  millimetres or inches (`ofSize`).  Any other keyword is written with each of its hyphenated
  words capitalised (`titleText`).

  Only the keyword of a size can fail to have a label, by dimensions that cannot be written;
  `ofJson` adds keywords from outside that are no text.
-/
import PrinterConsole.Fault
import PrinterConsole.Media.CustomRange
import PrinterConsole.Text.Upper

namespace PrinterConsole.Label

open PrinterConsole.Number PrinterConsole.Text

/-- Keywords with a wording of their own, in every attribute. -/
def fixed : List (String × String) := [
  ("bi-level", "B&W (no shading)"),
  ("monochrome", "B&W"),
  ("main-roll", "Main"),
  ("alternate-roll", "Alternate"),
  ("labels", "Cut Labels"),
  ("labels-continuous", "Continuous Labels"),
  ("stationery", "Plain Paper"),
  ("stationery-letterhead", "Letterhead"),
  ("one-sided", "Off"),
  ("two-sided-long-edge", "On (Portrait)"),
  ("two-sided-short-edge", "On (Landscape)")]

/-- Short size names with a wording of their own. -/
def sizeNames : List (String × String) := [
  ("Letter", "US Letter"),
  ("Legal", "US Legal"),
  ("Env10", "#10 Envelope"),
  ("A4", "A4"),
  ("A5", "A5"),
  ("A6", "A6"),
  ("EnvDL", "DL Envelope")]

/-- The label of what is not known. -/
def unknown : String := "Unknown"

/-! ## Capitalised words -/

/-- The rest of a keyword: a hyphen becomes a space unless it is the last character, and the
    character after such a space (`afterSpace`) is put in upper case. -/
def titleRest (afterSpace : Bool) : List Char → List Char
  | [] => []
  | c :: rest =>
    if c = '-' ∧ rest ≠ [] then ' ' :: titleRest true rest
    else if afterSpace then upperChar c ++ titleRest false rest
    else c :: titleRest false rest

/-- A keyword with its words capitalised: `auto-fit` becomes `Auto Fit`.  The first character is put
    in upper case whatever it is. -/
def title : List Char → List Char
  | [] => []
  | c :: rest => upperChar c ++ titleRest false rest

/-! ## Sizes -/

/-- A whole number as text, if it is not too long (`isWritable`). -/
def wholeText (n : Nat) : Except Fault String :=
  if isWritable n then .ok (natText n) else .error .unwritableNumber

/-- A length in inches, with six significant digits (`Binary64.generalText`). -/
def inchText (n : Nat) : Except Fault String := (hundredthsToInches n).map Binary64.generalText

/-- The dimensions of the size `s`: in millimetres when the width is whole millimetres but not whole
    inches, else in inches.  The length is not asked, so its fraction of a millimetre is dropped. -/
def dimensions (s : MediaSize) : Except Fault String := do
  if s.width % hundredthsPerMillimetre = 0 ∧ s.width % hundredthsPerInch ≠ 0 then
    let width ← wholeText (s.width / hundredthsPerMillimetre)
    let length ← wholeText (s.length / hundredthsPerMillimetre)
    return width ++ " x " ++ length ++ "mm"
  else
    let width ← inchText s.width
    let length ← inchText s.length
    return width ++ " x " ++ length ++ "\""

/-- The `keyword` as text with its words capitalised. -/
def titleText (keyword : String) : String := String.ofList (title keyword.toList)

/-- The label of a media size keyword: its title if it describes no size, the wording of its short
    name, or its `dimensions`. -/
def ofSize (keyword : String) : Except Fault String :=
  match MediaSize.lookup keyword with
  | none => .ok (titleText keyword)
  | some s =>
    match s.shortName.bind fun n => sizeNames.lookup n with
    | some label => .ok label
    | none => dimensions s

/-! ## Keywords -/

/-- The label of a photo paper keyword, read after `photographic`; the word after the hyphen says
    which paper. -/
def photoPaper (rest : List Char) : String :=
  match rest with
  | '-' :: c :: more => String.ofList (upperChar c ++ more) ++ " Photo Paper"
  | _ => "Photo Paper"

/-- The wording that a keyword of an attribute has of its own.  The attribute matters for
    `continuous` alone. -/
def wording? (attr keyword : String) : Option String :=
  match fixed.lookup keyword with
  | some label => some label
  | none =>
    if attr == "media-type" && keyword == "continuous" then some "Continuous Paper"
    else if startsWith "photographic" keyword then some (photoPaper (keyword.toList.drop 12))
    else none

/-- The label of a `keyword` that is no media size; there always is one. -/
def plain (attr keyword : String) : String := (wording? attr keyword).getD (titleText keyword)

/-- The label of a keyword of an attribute: for `media` that of a size, unless the keyword has a
    wording of its own. -/
def ofKeyword (attr keyword : String) : Except Fault String :=
  if attr == "media" then
    match wording? attr keyword with
    | some label => .ok label
    | none => ofSize keyword
  else .ok (plain attr keyword)

/-- The label of a keyword that comes from outside: it must be a `Json.string`. -/
def ofJson (attr : String) : Json → Except Fault String
  | .string s => ofKeyword attr s
  | .array _ | .object _ => .error .noKey
  | _ => .error .notText

end PrinterConsole.Label
