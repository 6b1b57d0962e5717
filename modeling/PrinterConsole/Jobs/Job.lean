/-
  Print jobs.

  A job waits (pending or held), runs (processing or stopped) and ends (canceled, aborted or
  completed).  A running job that is canceled is only marked; it ends when the printer is done
  with it.

  `JobState.isWaiting`, `isRunning` and `isTerminal` are those three stages.  What a page shows of
  a job is its `Job.row`, whose button to cancel is there exactly when canceling applies
  (`canCancel`).

  Main statement: a job is offered for canceling only while it is active
  (`isActive_of_canCancel`).
-/
import PrinterConsole.Keyword.Vocabulary
import PrinterConsole.Time

namespace PrinterConsole

/-- States of a job. -/
inductive JobState where
  | pending | held | processing | stopped | canceled | aborted | completed
  deriving DecidableEq, Repr

instance : Vocabulary JobState where
  members := [.pending, .held, .processing, .stopped, .canceled, .aborted, .completed]
  keyword
    | .pending => "pending"
    | .held => "held"
    | .processing => "processing"
    | .stopped => "stopped"
    | .canceled => "canceled"
    | .aborted => "aborted"
    | .completed => "completed"
  code
    | .pending => 3
    | .held => 4
    | .processing => 5
    | .stopped => 6
    | .canceled => 7
    | .aborted => 8
    | .completed => 9

/-- The job has ended. -/
def JobState.isTerminal : JobState → Bool
  | .canceled | .aborted | .completed => true
  | _ => false

/-- The printer has begun with the job and not ended it. -/
def JobState.isRunning : JobState → Bool
  | .processing | .stopped => true
  | _ => false

/-- The printer has not begun with the job. -/
def JobState.isWaiting : JobState → Bool
  | .pending | .held => true
  | _ => false

/-- A job of one printer.  The three times are unset until the job gets there. -/
structure Job where
  id : Int
  name : String
  owner : String
  state : JobState
  /-- Pages printed. -/
  impressions : Int := 0
  /-- Canceling was asked for while the job ran. -/
  isCanceled : Bool := false
  created : Option Instant := none
  /-- When the printer began with the job. -/
  processing : Option Instant := none
  completed : Option Instant := none
  deriving DecidableEq, Repr

namespace Job

/-- The job has not ended (`JobState.isTerminal`); the jobs that the queue never purges. -/
def isActive (j : Job) : Bool := !j.state.isTerminal

/-- Canceling applies to the job: it waits, or it runs and is not marked yet (`isCanceled`). -/
def canCancel (j : Job) : Bool := j.state.isWaiting || (j.state.isRunning && !j.isCanceled)

/-- Canceling (`canCancel`) applies to no job that has ended, since an ended job neither waits nor
    runs. -/
theorem isActive_of_canCancel {j : Job} (h : j.canCancel) : j.isActive := by
  obtain ⟨_, _, _, state, _, _, _, _, _⟩ := j
  cases state <;> simp_all [canCancel, isActive, JobState.isWaiting, JobState.isRunning,
    JobState.isTerminal]

/-! ## Rows of the job tables -/

/-- The time of day of `t`; empty if the time is not known. -/
def clock (t : Option Instant) : String := t.elim "" Instant.clockText

/-- What happened to the job `j` last, and when.  A running job that is marked is told as being
    canceled, at the time it was started. -/
def whenText (j : Job) : String :=
  match j.state with
  | .pending | .held => "Queued at " ++ clock j.created
  | .processing | .stopped =>
    (if j.isCanceled then "Canceling at " else "Started at ") ++ clock j.processing
  | .aborted => "Aborted at " ++ clock j.completed
  | .canceled => "Canceled at " ++ clock j.completed
  | .completed => "Completed at " ++ clock j.completed

/-- A row of a job table, made of a `Job`. -/
structure Row where
  id : Int
  name : String
  owner : String
  impressions : Int
  whenText : String
  showCancel : Bool
  deriving DecidableEq, Repr

/-- The row of a job, the same on every page with a job table. -/
def row (j : Job) : Row := ⟨j.id, j.name, j.owner, j.impressions, j.whenText, j.canCancel⟩

end Job

end PrinterConsole
