/-
  The decimal numbers that stand for a binary floating-point value.

  `shortest` is the decimal number of fewest digits that is rounded back to the value, and of those
  the nearest to it: for 1, 2, ... 17 digits the two neighbours of the value on that decimal grid
  are tried.  A neighbour stands for the value when it lies within half a step of it; the ends of
  that interval belong to it exactly when the mantissa is even.  `significant` rounds the exact
  value to a fixed number of digits.
-/
import PrinterConsole.Number.Binary64

namespace PrinterConsole.Number

namespace Binary64

/-- The lower end of the interval of `m * 2 ^ e`, in quarters of a step of the mantissa.  Below the
    least magnitude of a binade the steps are half as wide. -/
def lowEnd (m : Nat) (e : Int) : Nat :=
  if m = Nat.pow 2 52 ∧ -1074 < e then 4 * m - 1 else 4 * m - 2

/-- The upper end of the interval of `m * 2 ^ e`, in quarters of a step of the mantissa. -/
def highEnd (m : Nat) : Nat := 4 * m + 2

end Binary64

/-- A decimal number as its digits and the place of the point: `0.ds * 10 ^ point`. -/
structure DigitString where
  digits : List Char
  point : Int
  deriving DecidableEq, Repr

namespace DigitString

/-- The digits of `coefficient * 10 ^ exponent`, zeros at the end dropped. -/
def ofScaled (coefficient : Nat) (exponent : Int) : DigitString :=
  if coefficient = 0 then ⟨['0'], 1⟩
  else
    let ds := Nat.toDigits 10 coefficient
    ⟨(ds.reverse.dropWhile (· == '0')).reverse, ds.length + exponent⟩

/-- The place of the point of a positive ratio: `10 ^ (p - 1) ≤ num / den < 10 ^ p`. -/
def pointOf (num den : Nat) : Int :=
  if den ≤ num then (Nat.toDigits 10 (num / den)).length
  else
    let t := (Nat.toDigits 10 (den / num)).length
    if num * Nat.pow 10 (t - 1) = den then 2 - (t : Int) else 1 - (t : Int)

/-- The ratio `num / den` divided by `10 ^ q`. -/
def ungrid (num den : Nat) (q : Int) : Nat × Nat :=
  if 0 ≤ q then (num, den * Nat.pow 10 q.toNat) else (num * Nat.pow 10 (-q).toNat, den)

/-- The positive ratio `num / den` rounded to `n` significant digits. -/
def significant (n : Nat) (num den : Nat) : DigitString :=
  let q := pointOf num den - n
  let (a, b) := ungrid num den q
  ofScaled (halfEven a b) q

/-- The point `c` of a decimal grid stands for `m * 2 ^ e`, where a quarter of a step of the
    mantissa is `a / b` grid steps. -/
def stands (m : Nat) (e : Int) (a b c : Nat) : Bool :=
  if m % 2 = 0 then Binary64.lowEnd m e * a ≤ c * b && c * b ≤ Binary64.highEnd m * a
  else Binary64.lowEnd m e * a < c * b && c * b < Binary64.highEnd m * a

/-- The point of the decimal grid of step `10 ^ q` that stands for `m * 2 ^ e`, if one of the two
    neighbours does; of two that do, the nearer one, a tie going to the even point. -/
def onGrid? (m : Nat) (e q : Int) : Option Nat :=
  let (un, ud) := Binary64.ratio 1 (e - 2)
  let (a, b) := ungrid un ud q
  let value := 4 * m * a
  let below := value / b
  let above := below + 1
  if stands m e a b below then
    if stands m e a b above then
      let down := value - below * b
      let up := above * b - value
      some (if down < up ∨ (down = up ∧ below % 2 = 0) then below else above)
    else some below
  else if stands m e a b above then some above
  else none

/-- The shortest decimal number that is rounded back to `m * 2 ^ e`, for a positive `m`.  Seventeen
    digits are always enough, so `significant 17` stands for a case that does not occur. -/
def shortest (m : Nat) (e : Int) : DigitString :=
  let (num, den) := Binary64.ratio m e
  let p := pointOf num den
  match (List.range 17).findSome? fun k =>
      (onGrid? m e (p - (k + 1 : Nat))).map fun c => ofScaled c (p - (k + 1 : Nat)) with
  | some d => d
  | none => significant 17 num den

end DigitString

end PrinterConsole.Number
