/-
  Media sizes and their self-describing names.

  A name such as `na_letter_8.5x11in` ends in the dimensions of the size.  Well-known names stand
  in `standard`, which also has the short name under which a size is displayed; any other
  well-formed name is read.  Lengths are whole hundredths of a millimetre.

  A dimension is a product of a decimal numeral and a unit (`Measure.times`).  The product keeps
  28 significant digits, a half going to the even digit, and the fraction of the result is
  dropped.  A product of more than a million digits leaves its range (`overflows`); whoever looks
  a submitted name up has to ask for that first.

  `lookup` is how everything else asks for a size.  It gives none for a name without the three
  parts, and for one with a dimension of zero.
-/
import PrinterConsole.Number.Numeral

namespace PrinterConsole

open PrinterConsole.Number PrinterConsole.Text

/-- Hundredths of a millimetre in an inch. -/
def hundredthsPerInch : Nat := 2540

/-- Hundredths of a millimetre in a millimetre. -/
def hundredthsPerMillimetre : Nat := 100

/-- A media size. -/
structure MediaSize where
  /-- The self-describing name. -/
  name : String
  /-- The short name; sizes that are read from their name have none. -/
  shortName : Option String
  width : Nat
  length : Nat
  deriving DecidableEq, Repr

namespace MediaSize

/-- The well-known sizes, with their short names; `lookup` finds them before it reads any
    dimensions. -/
def standard : List MediaSize := [
  ⟨"na_letter_8.5x11in", some "Letter", 21590, 27940⟩,
  ⟨"na_legal_8.5x14in", some "Legal", 21590, 35560⟩,
  ⟨"na_executive_7.25x10.5in", some "Executive", 18415, 26670⟩,
  ⟨"na_ledger_11x17in", some "Tabloid", 27940, 43180⟩,
  ⟨"na_foolscap_8.5x13in", some "FanFoldGermanLegal", 21590, 33020⟩,
  ⟨"na_govt-letter_8x10in", some "8x10", 20320, 25400⟩,
  ⟨"na_index-3x5_3x5in", some "3x5", 7620, 12700⟩,
  ⟨"na_index-4x6_4x6in", some "4x6", 10160, 15240⟩,
  ⟨"na_5x7_5x7in", some "5x7", 12700, 17780⟩,
  ⟨"na_number-10_4.125x9.5in", some "Env10", 10477, 24130⟩,
  ⟨"na_monarch_3.875x7.5in", some "EnvMonarch", 9842, 19050⟩,
  ⟨"oe_photo-l_3.5x5in", some "3.5x5", 8890, 12700⟩,
  ⟨"iso_a3_297x420mm", some "A3", 29700, 42000⟩,
  ⟨"iso_a4_210x297mm", some "A4", 21000, 29700⟩,
  ⟨"iso_a5_148x210mm", some "A5", 14800, 21000⟩,
  ⟨"iso_a6_105x148mm", some "A6", 10500, 14800⟩,
  ⟨"iso_b5_176x250mm", some "ISOB5", 17600, 25000⟩,
  ⟨"jis_b5_182x257mm", some "B5", 18200, 25700⟩,
  ⟨"iso_c5_162x229mm", some "EnvC5", 16200, 22900⟩,
  ⟨"iso_dl_110x220mm", some "EnvDL", 11000, 22000⟩,
  ⟨"jpn_hagaki_100x148mm", some "Postcard", 10000, 14800⟩,
  ⟨"om_small-photo_100x150mm", some "100x150mm", 10000, 15000⟩]

/-! ## Dimensions -/

/-- A decimal numeral: `coefficient / 10 ^ places`. -/
structure Measure where
  coefficient : Nat
  places : Nat
  deriving DecidableEq, Repr

/-- Significant digits of a product. -/
def precision : Nat := 28

/-- The value of the ASCII digits `cs`. -/
def asciiValue (ds : List Char) : Nat := digitsValue (ds.map fun c => c.toNat - 0x30)

/-- The measure times a unit, at `precision` significant digits, the fraction dropped.  Below 29
    digits of the product nothing is rounded. -/
def Measure.times (m : Measure) (unit : Nat) : Nat :=
  let product := m.coefficient * unit
  let excess := (Nat.toDigits 10 product).length - precision
  halfEven product (Nat.pow 10 excess) * Nat.pow 10 excess / Nat.pow 10 m.places

/-- Digits, and perhaps a point and more digits; the `Measure` and what follows them.  The digits
    are ASCII, and a point may end the measure. -/
def readMeasure (cs : List Char) : Option (Measure × List Char) :=
  let whole := cs.takeWhile isAsciiDigit
  let rest := cs.dropWhile isAsciiDigit
  if whole.isEmpty then none
  else match rest with
    | '.' :: more =>
      let fraction := more.takeWhile isAsciiDigit
      some (⟨asciiValue (whole ++ fraction), fraction.length⟩, more.dropWhile isAsciiDigit)
    | _ => some (⟨asciiValue whole, 0⟩, rest)

/-- A unit at the end of a name, in hundredths of a millimetre; a line feed may follow it. -/
def readUnit : List Char → Option Nat
  | ['i', 'n'] | ['i', 'n', '\n'] => some hundredthsPerInch
  | ['m', 'm'] | ['m', 'm', '\n'] => some hundredthsPerMillimetre
  | _ => none

/-- Reads `<width>x<length><unit>` as hundredths of a millimetre. -/
def readDimensions (cs : List Char) : Option (Nat × Nat) := do
  let (width, rest) ← readMeasure cs
  match rest with
  | 'x' :: more =>
    let (length, rest') ← readMeasure more
    let unit ← readUnit rest'
    some (width.times unit, length.times unit)
  | _ => none

/-- The parts of the text `cs` before and after its last underscore; none if there is no
    underscore. -/
def splitLast (cs : List Char) : Option (List Char × List Char) :=
  match cs.reverse.dropWhile (· != '_') with
  | [] => none
  | _ :: before => some (before.reverse, (cs.reverse.takeWhile (· != '_')).reverse)

/-- Reads the size that a name of the form `<class>_<name>_<dimensions>` describes.  A dimension of
    zero describes none. -/
def ofDimensions? (name : String) : Option MediaSize := do
  let (front, last) ← splitLast name.toList
  if !front.contains '_' then none
  let (width, length) ← readDimensions last
  if width = 0 || length = 0 then none
  some ⟨name, none, width, length⟩

/-- The size with a name: a well-known one, or the one that the name describes (`ofDimensions?`). -/
def lookup (name : String) : Option MediaSize :=
  match standard.find? fun s => s.name == name with
  | some s => some s
  | none => ofDimensions? name

/-! ## The range of products -/

/-- The digits of a product before its point, at most. -/
def productDigits : Nat := 1000000

/-- The dimensions that `name` describes, also if one of them is zero. -/
def dimensions? (name : String) : Option (Nat × Nat) := do
  let (front, last) ← splitLast name.toList
  if !front.contains '_' then none
  readDimensions last

/-- Looking `name` up takes a product that leaves its range.  Well-known sizes take none. -/
def overflows (name : String) : Bool :=
  !(standard.any fun s => s.name == name) &&
    (dimensions? name).any fun (width, length) =>
      Nat.pow 10 productDigits ≤ width || Nat.pow 10 productDigits ≤ length

end MediaSize

end PrinterConsole
