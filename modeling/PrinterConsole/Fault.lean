/-
  Faults: the causes for which an operation ends without a result.

  Values that come from outside (a loaded file, a driver's tables) may have the wrong shape, and
  numbers may leave their range.  Each such cause is a constructor; `problem` carries what the
  console reports in words.

  A fault is told apart from a `Problem` because of what the console does with it: a problem goes
  on the page as its message, and any other fault is answered by the page of a failure, whose text
  tells nothing of the cause.  The constructors are kept apart all the same, since it depends on
  the cause what is passed over: `Printer.isFileFailure` passes over a state file that cannot be
  used, and nothing else.
-/
import PrinterConsole.Problem

namespace PrinterConsole

/-- Why an operation gave no result; `Except Fault` is the monad of everything that can fail
    here. -/
inductive Fault where
  /-- A text that is no numeral, or a numeral that is too long. -/
  | badNumeral
  /-- A whole number with too many digits to be written. -/
  | unwritableNumber
  /-- A code that names no member of a table. -/
  | unknownCode
  /-- A pair that does not have two parts. -/
  | wrongCount
  /-- Ready media that do not match the sources one to one. -/
  | misaligned (entries sources : Nat)
  /-- A value that is no number where one is needed. -/
  | notNumber
  /-- A value without items where a list is needed. -/
  | notList
  /-- Tokens that cannot be compared in constant time. -/
  | incomparable
  /-- A value that is no text where one is needed. -/
  | notText
  /-- A value that cannot be looked up in a table. -/
  | noKey
  /-- A value without members where a record is needed. -/
  | notRecord
  /-- A place that the list does not have. -/
  | noSuchItem
  /-- A number outside the range of values. -/
  | tooLarge
  /-- Bytes that are no text. -/
  | undecodable
  /-- An edit that was given up. -/
  | interrupted
  /-- A problem the console reports in words. -/
  | problem (p : Problem)

end PrinterConsole
