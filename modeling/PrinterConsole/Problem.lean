/-
  Problems: what the console itself reports about a submission, a job or the state file.

  A problem is a cause.  Its wording (`message`), the facts beside it (`details`) and the two
  together (`text`) are read off the cause; `kind` and `Kind.parent?` say which wider class of
  problems it belongs to.

  The wording is what a page shows; the facts go with it where a problem is written down for
  whoever looks after the console.  A problem with a job number has the wording of its wider
  class, whether the number is none or no job has it.
-/
import PrinterConsole.Json.Display

namespace PrinterConsole

namespace Problem

/-- Classes of problems, from the widest to the narrowest. -/
inductive Kind where
  | general
  | formData
  | formToken
  | jobId
  | unknownJob
  | stateFile
  deriving DecidableEq, Repr

/-- The next wider class. -/
def Kind.parent? : Kind → Option Kind
  | .general => none
  | .unknownJob => some .jobId
  | _ => some .general

/-- The wider classes of `k`, the nearest first; no class has more than two. -/
def Kind.parents (k : Kind) : List Kind :=
  match k.parent? with
  | none => []
  | some p => p :: (match p.parent? with | none => [] | some q => [q])

end Problem

/-- A problem the console reports. -/
inductive Problem where
  /-- A problem in the reporter's own words. -/
  | general (message : String) (details : Json)
  /-- A submission without any field. -/
  | emptyForm (message : String)
  /-- A submission that does not carry the session's token. -/
  | badToken (message : String)
  /-- A job number that is missing, zero or no number. -/
  | badJobId (id : Json) (message : String)
  /-- A well-formed job number that no job has. -/
  | unknownJob (id : Json)
  /-- A state file that cannot be read or written. -/
  | stateFile (path reason : String)

namespace Problem

/-- What is said of a submission without fields. -/
def emptyFormMessage : String := "Invalid form data."
/-- What is said of a submission without the token of its session. -/
def badTokenMessage : String := "Invalid form submission."
/-- What is said of a job number that is none, and of one that no job has. -/
def badJobIdMessage : String := "Invalid Job ID."

/-- The class of a `Problem`, one for each constructor. -/
def kind : Problem → Kind
  | general .. => .general
  | emptyForm _ => .formData
  | badToken _ => .formToken
  | badJobId .. => .jobId
  | unknownJob _ => .unknownJob
  | stateFile .. => .stateFile

/-- The wording shown on a page. -/
def message : Problem → String
  | general m _ => m
  | emptyForm m => m
  | badToken m => m
  | badJobId _ m => m
  | unknownJob _ => badJobIdMessage
  | stateFile _ reason => "Printer state file error: " ++ reason

/-- The facts beside the wording (`message`). -/
def details : Problem → Json
  | general _ d => if d.truthy then d else .object []
  | emptyForm _ => .object []
  | badToken _ => .object [("field", .string "session")]
  | badJobId .null _ => .object []
  | badJobId id _ => .object [("job_id", id)]
  | unknownJob id => .object
      [("job_id", .string id.shown),
       ("resolution", .string "The job may have been purged from history")]
  | stateFile path _ => .object [("path", .string path)]

/-- The wording (`message`) with the facts, if there are any. -/
def text (p : Problem) : String :=
  if p.details.truthy then p.message ++ " | Details: " ++ p.details.literal else p.message

end Problem

end PrinterConsole
