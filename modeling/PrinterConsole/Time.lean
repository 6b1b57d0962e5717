/-
  Points in time, as whole seconds since the start of 1970.

  Texts are made from two parts, `dateText` and `clockText`; the date is worked out from the
  number of days alone, so it is right for every point in time, also before the start.
-/
import PrinterConsole.Number.Numeral

namespace PrinterConsole

open PrinterConsole.Number

/-- A point in time, in seconds. -/
structure Instant where
  seconds : Int
  deriving DecidableEq, Repr

namespace Instant

/-- The number `n` with at least two digits, as all parts of a date and a clock but the year are
    written. -/
def twoDigits (n : Nat) : String := if n < 10 then "0" ++ natText n else natText n

/-- The second of the day of `t`, from 0 to 86399 also before 1970. -/
def secondOfDay (t : Instant) : Nat := (t.seconds % 86400).toNat

/-- The time of day, as `HH:MM:SS`. -/
def clockText (t : Instant) : String :=
  let s := t.secondOfDay
  twoDigits (s / 3600) ++ ":" ++ twoDigits (s / 60 % 60) ++ ":" ++ twoDigits (s % 60)

/-- Year, month and day of `t`.  Years are counted from March, in eras of 400 years, so that a leap
    day is the last day of its year. -/
def date (t : Instant) : Int × Nat × Nat :=
  let days := t.seconds / 86400 + 719468
  let era := days / 146097
  let day := (days % 146097).toNat
  let year := (day - day / 1460 + day / 36524 - day / 146096) / 365
  let dayOfYear := day - (365 * year + year / 4 - year / 100)
  let month := (5 * dayOfYear + 2) / 153
  let dayOfMonth := dayOfYear - (153 * month + 2) / 5 + 1
  let calendarMonth := if month < 10 then month + 3 else month - 9
  (era * 400 + year + (if calendarMonth ≤ 2 then 1 else 0), calendarMonth, dayOfMonth)

/-- The year `y` with at least four digits. -/
def yearText (y : Int) : String :=
  let digits := natText y.natAbs
  String.ofList (List.replicate (4 - digits.length) '0') ++ digits

/-- The `date`, as `YYYY-MM-DD`. -/
def dateText (t : Instant) : String :=
  let (y, m, d) := t.date
  yearText y ++ "-" ++ twoDigits m ++ "-" ++ twoDigits d

/-- `dateText` and `clockText`, as `YYYY-MM-DDTHH:MM:SS`. -/
def text (t : Instant) : String := t.dateText ++ "T" ++ t.clockText

/-- `dateText` and `clockText`, as a line of the log begins: `YYYY-MM-DD HH:MM:SS`. -/
def stamp (t : Instant) : String := t.dateText ++ " " ++ t.clockText

/-- The point in time `seconds` later. -/
def later (t : Instant) (seconds : Int) : Instant := ⟨t.seconds + seconds⟩

end Instant

end PrinterConsole
