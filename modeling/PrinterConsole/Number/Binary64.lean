/-
  Binary floating point of 64 bits, in exact arithmetic.

  A finite value is a sign and a magnitude `mantissa * 2 ^ exponent` in canonical form
  (`IsCanonical`), so that two values that print differently are different.  Every operation
  computes the exact ratio of naturals first and rounds it once (`ofRatio`), to the nearest value,
  a half to the even mantissa; what is too large becomes infinite.  Nothing here uses the
  machine's floating point, so a statement about a printed measurement is a statement about
  naturals.

  `ratio` is the way back, from a finite value to the exact ratio it is.  Arithmetic is written
  with the two, and its laws come from two facts about `ofRatio`: that the result is nearest
  (`Proofs.Number.Nearest`) and that it is monotone (`Proofs.Number.Order`).
-/
import PrinterConsole.Number.Rounding

namespace PrinterConsole.Number

/-- Canonical magnitudes: the full 53 bits, unless the exponent is the lowest.  Every magnitude in
    range has exactly one such form. -/
def IsCanonical (mantissa : Nat) (exponent : Int) : Prop :=
  mantissa < Nat.pow 2 53 ∧ -1074 ≤ exponent ∧ exponent ≤ 971 ∧
    (Nat.pow 2 52 ≤ mantissa ∨ exponent = -1074)

instance (m : Nat) (e : Int) : Decidable (IsCanonical m e) :=
  inferInstanceAs (Decidable (_ ∧ _ ∧ _ ∧ (_ ∨ _)))

/-- A binary floating-point value.  Of the values that are no number there is only `nan`. -/
inductive Binary64 where
  | finite (negative : Bool) (mantissa : Nat) (exponent : Int)
      (canonical : IsCanonical mantissa exponent)
  | infinite (negative : Bool)
  | nan
  deriving DecidableEq

namespace Binary64

/-! ## Ratios -/

/-- The ratio `num / den` divided by `2 ^ e`, as a ratio again: a power of two goes to the
    denominator or the numerator. -/
def unscale (num den : Nat) (e : Int) : Nat × Nat :=
  if 0 ≤ e then (num, den * Nat.pow 2 e.toNat) else (num * Nat.pow 2 (-e).toNat, den)

/-- The exponent at which the ratio `num / den` has a mantissa of 53 bits, but at least the lowest
    exponent.  The difference of the bit lengths is at most one off. -/
def exponentFor (num den : Nat) : Int :=
  let guess : Int := (Nat.log2 num : Int) - (Nat.log2 den : Int) - 52
  let (n, d) := unscale num den guess
  max (if n / d < Nat.pow 2 52 then guess - 1 else guess) (-1074)

/-- The magnitude `m * 2 ^ e`, carried into the next exponent when rounding filled 53 bits; too
    large a magnitude is infinite. -/
def ofMagnitude (negative : Bool) (m : Nat) (e : Int) : Binary64 :=
  if h : IsCanonical m e then finite negative m e h
  else if h : IsCanonical (m / 2) (e + 1) then finite negative (m / 2) (e + 1) h
  else infinite negative

/-- The value nearest to the ratio `num / den`, which is rounded at the exponent that `exponentFor`
    chooses.  A zero keeps its sign. -/
def ofRatio (negative : Bool) (num den : Nat) : Binary64 :=
  if num = 0 then ofMagnitude negative 0 (-1074)
  else
    let e := exponentFor num den
    let (n, d) := unscale num den e
    ofMagnitude negative (halfEven n d) e

/-- The magnitude `m * 2 ^ e` of a finite value as a ratio, exactly. -/
def ratio (m : Nat) (e : Int) : Nat × Nat :=
  if 0 ≤ e then (m * Nat.pow 2 e.toNat, 1) else (m, Nat.pow 2 (-e).toNat)

/-- Neither infinite nor undefined. -/
def isFinite : Binary64 → Bool
  | finite .. => true
  | _ => false

/-- A magnitude of zero. -/
def isZero : Binary64 → Bool
  | finite _ m _ _ => m == 0
  | _ => false

/-- The value `x` itself if it is finite. -/
def finite? (x : Binary64) : Option Binary64 := if x.isFinite then some x else none

/-! ## Arithmetic -/

/-- The whole number `n`, or nothing if it is too large. -/
def ofInt? (n : Int) : Option Binary64 := (ofRatio (decide (n < 0)) n.natAbs 1).finite?

/-- The quotient of the whole numbers `n` and `d`, rounded once; nothing if it is too large. -/
def quotient? (n : Int) (d : Nat) : Option Binary64 :=
  (ofRatio (decide (n < 0)) n.natAbs d).finite?

/-- The value of the other sign. -/
def neg : Binary64 → Binary64
  | finite s m e h => finite (!s) m e h
  | infinite s => infinite (!s)
  | nan => nan

/-- The product, rounded once; zero times infinite is not defined. -/
def mul : Binary64 → Binary64 → Binary64
  | finite s m e _, finite t n f _ =>
    let (a, b) := ratio m e
    let (c, d) := ratio n f
    ofRatio (s != t) (a * c) (b * d)
  | infinite s, finite t n _ _ => if n = 0 then nan else infinite (s != t)
  | finite s m _ _, infinite t => if m = 0 then nan else infinite (s != t)
  | infinite s, infinite t => infinite (s != t)
  | _, _ => nan

/-- The sum; two opposite magnitudes give positive zero, two negative zeros a negative one. -/
def add : Binary64 → Binary64 → Binary64
  | finite s m e _, finite t n f _ =>
    let (a, b) := ratio m e
    let (c, d) := ratio n f
    let x : Int := (if s then -1 else 1) * (a * d : Nat)
    let y : Int := (if t then -1 else 1) * (c * b : Nat)
    if x + y = 0 then ofRatio (s && t) 0 1
    else ofRatio (decide (x + y < 0)) (x + y).natAbs (b * d)
  | infinite s, infinite t => if s = t then infinite s else nan
  | infinite s, finite .. => infinite s
  | finite .., infinite t => infinite t
  | _, _ => nan

/-- The difference of `x` and `y`, as the sum with the negative. -/
def sub (x y : Binary64) : Binary64 := add x y.neg

/-- `x` divided by a positive whole number, rounded once. -/
def divNat (x : Binary64) (k : Nat) : Binary64 :=
  match x with
  | finite s m e _ =>
    let (a, b) := ratio m e
    ofRatio s a (b * k)
  | other => other

/-- `x` times a whole number that is itself a value. -/
def mulNat (x : Binary64) (k : Nat) : Binary64 := mul (ofRatio false k 1) x

/-- The whole part of a finite value, the fraction dropped: towards zero for either sign. -/
def truncate? : Binary64 → Option Int
  | finite s m e _ =>
    let (a, b) := ratio m e
    some (if s then -((a / b : Nat) : Int) else ((a / b : Nat) : Int))
  | _ => none

/-- `x` rounded to `places` decimal places, then to the nearest value; a half goes to the even
    digit. -/
def roundPlaces (places : Nat) (x : Binary64) : Binary64 :=
  match x with
  | finite s m e _ =>
    let (a, b) := ratio m e
    ofRatio s (halfEven (a * Nat.pow 10 places) b) (Nat.pow 10 places)
  | other => other

/-! ## Comparison -/

/-- Equality of numbers: the two zeros are equal, and an undefined value equals nothing, not even
    itself. -/
def numEq : Binary64 → Binary64 → Bool
  | finite s m e _, finite t n f _ => (m == 0 && n == 0) || (s == t && m == n && e == f)
  | infinite s, infinite t => s == t
  | _, _ => false

/-- Equality with the whole number `k`, without rounding it. -/
def eqInt (x : Binary64) (k : Int) : Bool :=
  match x with
  | finite s m e _ =>
    let (a, b) := ratio m e
    (if s then -(a : Int) else (a : Int)) == k * b
  | _ => false

end Binary64

end PrinterConsole.Number
