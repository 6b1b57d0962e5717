/-
  Printed numbers: how a measurement is written on a page, in a file, or in a form field.

  A layout says where positional notation ends and how a whole value is marked.  `Layout.exact`
  writes the shortest digits that read back, always with a point; `Layout.general` writes six
  significant digits without needless zeros.  `fixedText` writes a given number of decimal places.

  The digits come from `DigitString.shortest` or `DigitString.significant`; a `Layout` only puts
  the point, and turns to an exponent outside its bounds.
-/
import PrinterConsole.Number.Numeral
import PrinterConsole.Number.Shortest

namespace PrinterConsole.Number

/-- The decisions of a number format. -/
structure Layout where
  /-- Positional notation is used while the point is above this place ... -/
  lowestPoint : Int
  /-- ... and not above this one. -/
  highestPoint : Int
  /-- Written after a whole value in positional notation. -/
  wholeMark : String
  deriving DecidableEq

namespace Layout

/-- Positional from 0.0001 up to below 10^16, and a whole value ends in `.0`. -/
def exact : Layout := ⟨-4, 16, ".0"⟩

/-- The `Layout` that is positional from 0.0001 up to below 10^6, and a whole value has no point. -/
def general : Layout := ⟨-4, 6, ""⟩

/-- The exponent `x` with its sign and at least two digits. -/
def exponentText (x : Int) : String :=
  let digits := natText x.natAbs
  (if x < 0 then "e-" else "e+") ++ (if digits.length < 2 then "0" ++ digits else digits)

/-- The text of the decimal number `d`: positional while the point is between the bounds of the
    layout, else with one digit before the point and an exponent. -/
def text (l : Layout) (d : DigitString) : String :=
  if l.lowestPoint < d.point ∧ d.point ≤ l.highestPoint then
    if d.point ≤ 0 then
      "0." ++ String.ofList (List.replicate (-d.point).toNat '0' ++ d.digits)
    else
      let n := d.point.toNat
      if d.digits.length ≤ n then
        String.ofList (d.digits ++ List.replicate (n - d.digits.length) '0') ++ l.wholeMark
      else
        String.ofList (d.digits.take n ++ '.' :: d.digits.drop n)
  else
    let mantissa :=
      match d.digits with
      | [] => []
      | [c] => [c]
      | c :: cs => c :: '.' :: cs
    String.ofList mantissa ++ exponentText (d.point - 1)

end Layout

namespace Binary64

/-- The minus sign of a value that is `negative`. -/
def signText (negative : Bool) : String := if negative then "-" else ""

/-- The text of a value in the layout `l`, given the digits of a positive magnitude. -/
def render (l : Layout) (digits : Nat → Int → DigitString) : Binary64 → String
  | finite s m e _ => signText s ++ l.text (if m = 0 then ⟨['0'], 1⟩ else digits m e)
  | infinite s => signText s ++ "inf"
  | nan => "nan"

/-- The shortest text that reads back: `0.1`, `4.0`, `1e+16`, `-0.0`; by `DigitString.shortest`. -/
def exactText (x : Binary64) : String := x.render .exact .shortest

/-- Six significant digits: `8.5`, `4`, `1.23457e+06`; by `DigitString.significant`. -/
def generalText (x : Binary64) : String :=
  x.render .general fun m e => let (a, b) := ratio m e; .significant 6 a b

/-- The digits of `n / 10 ^ places` with exactly that many decimal places. -/
def fixedDigits (places n : Nat) : String :=
  let whole := n / Nat.pow 10 places
  let fraction := Nat.toDigits 10 (n % Nat.pow 10 places)
  natText whole ++ "." ++
    String.ofList (List.replicate (places - fraction.length) '0' ++ fraction)

/-- Exactly `places` decimal places, a half going to the even digit (`halfEven`). -/
def fixedText (places : Nat) : Binary64 → String
  | finite s m e _ =>
    let (a, b) := ratio m e
    signText s ++ fixedDigits places (halfEven (a * Nat.pow 10 places) b)
  | infinite s => signText s ++ "inf"
  | nan => "nan"

end Binary64

end PrinterConsole.Number
