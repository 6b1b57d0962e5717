/-
  The status line of a printer: its state, the number of its active jobs, and the reasons for the
  state.

  Reasons are a set of flags; they are told in the order of their bits, and bits that name no
  reason are passed over (`Vocabulary.membersIn`).
-/
import PrinterConsole.Keyword.Device
import PrinterConsole.Number.Numeral

namespace PrinterConsole.Status

open PrinterConsole.Number

/-- The wordings of the `reasons`, by ascending bit; a bit without a reason has none. -/
def reasonLabels (reasons : Int) : List String :=
  (Vocabulary.membersIn Reason reasons).map Reason.label

/-- The number of jobs in words: of one job, and of any other number of jobs. -/
def jobCount (n : Int) : String := intText n ++ (if n = 1 then " job" else " jobs")

/-- The status in one line: `Idle, 1 job, Media Low`. -/
def summary (state : PrinterState) (reasons activeJobs : Int) : String :=
  String.intercalate ", " (state.label :: jobCount activeJobs :: reasonLabels reasons)

end PrinterConsole.Status
