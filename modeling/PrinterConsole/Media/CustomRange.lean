/-
  Custom sizes: the range a printer accepts, and the names of the sizes within it.

  A printer announces its range by two keywords among its sizes, a minimum and a maximum, which
  begin with `custom_` or `roll_` (`isCustomKeyword`).  Keywords of that kind are never sizes to
  choose from (`standardSizes`).  A bound that cannot be read is replaced by a fixed one.

  The two are searched in one pass (`findCustomRange`), which ends with the first prefix of the
  list that has both; what that means for any list is said by `Proofs.Control.RangeSearch`.  Bound
  by bound the range is what the keywords say: nothing makes the minimum smaller than the maximum,
  so `clamp` is defined by its two steps and not as the nearest length inside.
-/
import PrinterConsole.Json.Coerce
import PrinterConsole.Media.Size
import PrinterConsole.Number.Printed
import PrinterConsole.Text.Part

namespace PrinterConsole

open PrinterConsole.Number PrinterConsole.Text

/-! ## Units -/

/-- The length `inches` as hundredths of a millimetre, the fraction dropped; what is not finite has
    none. -/
def inchesToHundredths (inches : Binary64) : Except Fault Int :=
  (Json.float (inches.mulNat hundredthsPerInch)).toWhole

/-- Hundredths of a millimetre as inches, in one rounding (`Binary64.quotient?`). -/
def hundredthsToInches (n : Int) : Except Fault Binary64 :=
  match Binary64.quotient? n hundredthsPerInch with
  | some x => .ok x
  | none => .error .tooLarge

/-! ## Keywords -/

/-- The choice that stands for a custom size; no keyword of a size. -/
def customChoice : String := "custom"

/-- The keyword `name` describes a range and not a size. -/
def isCustomKeyword (name : String) : Bool :=
  startsWith "custom_" name || startsWith "roll_" name

/-- The name of a custom size loaded in a `source`: the source and both lengths in inches with two
    decimal places. -/
def customSizeName (source : String) (width length : Binary64) : String :=
  "custom_" ++ source ++ "_" ++ width.fixedText 2 ++ "x" ++ length.fixedText 2 ++ "in"

/-- One keyword of a size list, taken into the bounds `found` so far.  Once both are found nothing
    changes. -/
def noteBound (found : Option String × Option String) (name : String) :
    Option String × Option String :=
  if found.1.isSome && found.2.isSome then found
  else if !isCustomKeyword name then found
  else if contains "_min_" name then (some name, found.2)
  else if contains "_max_" name then (found.1, some name)
  else found

/-- The minimum and the maximum keyword of a size list.  Until both are found (`noteBound`) a later
    keyword replaces an earlier one of its kind. -/
def findCustomRange (names : List String) : Option String × Option String :=
  names.foldl noteBound (none, none)

/-- The keywords that are sizes to choose from, none of them an `isCustomKeyword`. -/
def standardSizes (names : List String) : List String := names.filter fun n => !isCustomKeyword n

/-! ## Ranges -/

/-- Bounds of a custom size, in hundredths of a millimetre. -/
structure CustomRange where
  minWidth : Nat
  minLength : Nat
  maxWidth : Nat
  maxLength : Nat
  deriving DecidableEq, Repr

namespace CustomRange

/-- Raises the length `x` to the lower bound, then lowers it to the upper one; with bounds in the
    wrong order the upper one wins. -/
def clampLength (low high : Nat) (x : Int) : Int := min (max x low) high

/-- Clamps a size into the range, width and length each for itself (`clampLength`). -/
def clamp (r : CustomRange) (width length : Int) : Int × Int :=
  (clampLength r.minWidth r.maxWidth width, clampLength r.minLength r.maxLength length)

/-- The bounds that replace those that cannot be read: one inch square, and 9 by 22 inches. -/
def fallback : CustomRange := ⟨2540, 2540, 9 * 2540, 22 * 2540⟩

/-- The range that a minimum and a maximum keyword describe; what `MediaSize.lookup` does not know
    is taken from `fallback`, width and length together. -/
def ofKeywords (least most : String) : CustomRange :=
  let low := match MediaSize.lookup least with
    | some s => (s.width, s.length)
    | none => (fallback.minWidth, fallback.minLength)
  let high := match MediaSize.lookup most with
    | some s => (s.width, s.length)
    | none => (fallback.maxWidth, fallback.maxLength)
  ⟨low.1, low.2, high.1, high.2⟩

end CustomRange

end PrinterConsole
