/-
  Values of form fields.

  A whole number is read from the start of a text, so `600dpi` is 600; a resolution is one such
  number or two joined by an `x`.  A measurement is a decimal number whose product with its scale
  is finite.

  A text that does not read as its field asks is no value: `none`, not a fault.  Only a digit run
  that is too long is a fault (`numberOf`), because reading it is refused before its value is
  known; a job number alone takes even that for a text that names no job (`jobNumber`).
-/
import PrinterConsole.Fault
import PrinterConsole.Text.Blank

namespace PrinterConsole.Form

open PrinterConsole.Number PrinterConsole.Text

/-- A sign and at least one digit at the start of the text `cs`, and what follows them.  The digits
    may be of any script. -/
def leadingDigits (cs : List Char) : Option ((Bool × List Nat) × List Char) :=
  let (negative, body) := signed cs
  match digitRun body with
  | ([], _) => none
  | (ds, rest) => some ((negative, ds), rest)

/-- A job number; zero if the `text` names none.  A negative number is no job either, so it counts
    as zero. -/
def jobNumber (text : Option String) : Int :=
  match text.bind fun t => readInt (trim t.toList) with
  | some n => max n 0
  | none => 0

/-- The number of a sign and digits.  A run of more than `maxDigits` digits has no number. -/
def numberOf (n : Bool × List Nat) : Except Fault Int :=
  match wholeOf n.1 n.2 with
  | some k => .ok k
  | none => .error .badNumeral

/-- The whole number at the start of the `text`, blanks before it passed over and everything after
    it ignored. -/
def leadingInt (text : String) : Except Fault (Option Int) :=
  match leadingDigits (trimStart text.toList) with
  | none => .ok none
  | some (n, _) => (numberOf n).map some

/-- A resolution: horizontal and vertical, or one number for both.  An `x` without digits after it
    is ignored like any other rest. -/
def resolution (text : String) : Except Fault (Option (Int × Int)) :=
  match leadingDigits (trimStart text.toList) with
  | none => .ok none
  | some (n, rest) => do
    let x ← numberOf n
    match rest with
    | 'x' :: more =>
      match leadingDigits more with
      | some (m, _) => return some (x, ← numberOf m)
      | none => return some (x, x)
    | _ => return some (x, x)

/-- The text of a resolution, which `resolution` reads: one number if both parts are the same, else
    two joined by an `x`.  The parts are shown as they are (`Json.shown`), and they can be shown if
    they are `Json.writable`. -/
def resolutionText (x y : Json) : Except Fault String :=
  if x.writable && y.writable then
    .ok ((if x.same y then x.shown else x.shown ++ "x" ++ y.shown) ++ "dpi")
  else .error .unwritableNumber

/-- The finite decimal number that `text` writes: the spellings of infinities and of no number are
    read, and dropped here. -/
def finiteNumber (text : String) : Option Binary64 :=
  (readDecimal text.toList).bind Binary64.finite?

/-- A measurement and its product with `scale`, the fraction dropped; `none` if the product is not
    finite. -/
def measurement (scale : Nat) (text : String) : Option (Binary64 × Int) := do
  let x ← readDecimal text.toList
  let n ← (x.mulNat scale).truncate?
  return (x, n)

end PrinterConsole.Form
