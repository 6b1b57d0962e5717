/-
  The job queue of a printer.

  Jobs are numbered from 1 and kept by ascending number.  Of the ended jobs only the newest stay,
  as many as the limit allows; they are purged whenever a job ends or is canceled.

  An operation on a job that is not there fails and changes nothing: each begins with `get`.  What
  an operation does to the one job it is about is a function of that job (`started`, `stopped`,
  `finished`, `canceled`), and `update` applies it by number; so a law about a job's record is a
  law about one of these functions.

  The operations are also data (`Op`), and `run` performs one and gives its `Answer`; what holds
  along every history of a queue is said over lists of them.

  Main statement: canceling an unknown job fails with its number (`cancel_eq_error`).
-/
import PrinterConsole.Fault
import PrinterConsole.Jobs.Job

namespace PrinterConsole

/-- The jobs of one printer, by ascending number; `nextId` is the number of the next job. -/
structure JobQueue where
  jobs : List Job := []
  nextId : Int := 1
  /-- How many ended jobs are kept. -/
  limit : Int := 100
  deriving DecidableEq, Repr

namespace JobQueue

/-! ## Reading -/

/-- All `jobs`, the newest first, as the history shows them. -/
def newestFirst (q : JobQueue) : List Job := q.jobs.reverse

/-- The jobs that have not ended (`Job.isActive`), the oldest first. -/
def active (q : JobQueue) : List Job := q.jobs.filter Job.isActive

/-- The job with the number `id`; no two jobs of a queue have one number. -/
def find? (q : JobQueue) (id : Int) : Option Job := q.jobs.find? fun j => j.id == id

/-- The job with the number `id`, which must exist. -/
def get (q : JobQueue) (id : Int) : Except Fault Job :=
  match q.find? id with
  | some j => .ok j
  | none => .error (.problem (.unknownJob (.int id)))

/-- How many jobs there are. -/
def size (q : JobQueue) : Nat := q.jobs.length

/-- How many jobs have not ended. -/
def activeCount (q : JobQueue) : Nat := q.active.length

/-! ## Changing -/

/-- The queue with `f` applied to the job with a number; the others, and the order, stay. -/
def update (q : JobQueue) (id : Int) (f : Job → Job) : JobQueue :=
  { q with jobs := q.jobs.map fun j => if j.id == id then f j else j }

/-- The jobs that are not `active`. -/
def ended (q : JobQueue) : List Job := q.jobs.filter fun j => !j.isActive

/-- The ended jobs beyond the `limit`: the oldest ones.  A limit that is not positive lets no ended
    job stay. -/
def excess (q : JobQueue) : List Job := q.ended.take (q.ended.length - q.limit).toNat

/-- The queue without the ended jobs beyond the limit (`excess`); no active job is ever dropped. -/
def purge (q : JobQueue) : JobQueue :=
  { q with jobs := q.jobs.filter fun j => !q.excess.any fun e => e.id == j.id }

/-- Adds a job at the end and gives its number, which is `nextId`; the job waits, or is held. -/
def create (q : JobQueue) (now : Instant) (name owner : String) (held : Bool) : Int × JobQueue :=
  let job : Job :=
    { id := q.nextId
      name := name
      owner := owner
      state := if held then .held else .pending
      created := some now }
  (q.nextId, { q with jobs := q.jobs ++ [job], nextId := q.nextId + 1 })

/-- The printer begins with the job `j`, or goes on with it: the time it first began is kept.  The
    state before is not asked for. -/
def started (now : Instant) (j : Job) : Job :=
  { j with state := .processing, processing := some (j.processing.getD now) }

/-- The printer begins with the job of the number `id`. -/
def start (q : JobQueue) (now : Instant) (id : Int) : Except Fault JobQueue := do
  let _ ← q.get id
  return q.update id (started now)

/-- The printer stops the job `j` it is processing; any other job stays as it is. -/
def stopped (j : Job) : Job := if j.state = .processing then { j with state := .stopped } else j

/-- The printer stops the job of the number `id`. -/
def stop (q : JobQueue) (id : Int) : Except Fault JobQueue := do
  let _ ← q.get id
  return q.update id stopped

/-- Notes that `n` pages were printed. -/
def setImpressions (q : JobQueue) (id n : Int) : Except Fault JobQueue := do
  let _ ← q.get id
  return q.update id fun j => { j with impressions := n }

/-- The printer ends the job `j` in the `state`; a job that is marked as canceled ends as canceled.
    The state before is not asked for. -/
def finished (now : Instant) (state : JobState) (j : Job) : Job :=
  { j with state := if j.isCanceled then .canceled else state, completed := some now }

/-- The printer ends the job of the number `id`, and the ended jobs beyond the limit are purged. -/
def finish (q : JobQueue) (now : Instant) (id : Int) (state : JobState) :
    Except Fault JobQueue := do
  let _ ← q.get id
  return (q.update id (finished now state)).purge

/-- The job `j` with canceling applied to it: a waiting job ends and a running one is marked.
    Nothing if canceling does not apply. -/
def canceled? (now : Instant) (j : Job) : Option Job :=
  if j.state.isWaiting then some { j with state := .canceled, completed := some now }
  else if j.state.isRunning && !j.isCanceled then some { j with isCanceled := true }
  else none

/-- A job after an attempt to cancel it: `canceled?`, or the job itself. -/
def canceled (now : Instant) (j : Job) : Job := (canceled? now j).getD j

/-- Cancels the job of the number `id`; tells whether that applied to it.  A queue in which it did
    not apply is not purged either. -/
def cancel (q : JobQueue) (now : Instant) (id : Int) : Except Fault (Bool × JobQueue) := do
  let j ← q.get id
  return match canceled? now j with
    | some _ => (true, (q.update id (canceled now)).purge)
    | none => (false, q)

/-- Cancels every job to which canceling applies (`canceled?`), and counts them; purged once, at the
    end. -/
def cancelAll (q : JobQueue) (now : Instant) : Nat × JobQueue :=
  ((q.jobs.filterMap (canceled? now)).length, ({ q with jobs := q.jobs.map (canceled now) }).purge)

/-! ## Operations as data -/

/-- An operation on a `JobQueue`, of an administrator or of the printer. -/
inductive Op where
  | create (name owner : String) (held : Bool)
  | start (id : Int)
  | stop (id : Int)
  | impressions (id n : Int)
  | finish (id : Int) (state : JobState)
  | cancel (id : Int)
  | cancelAll
  deriving DecidableEq, Repr

/-- What an `Op` answers. -/
inductive Answer where
  | done
  | number (n : Int)
  | flag (b : Bool)
  deriving DecidableEq, Repr

/-- Runs an operation on the queue `q` at the time `now`.  A fault comes with no queue: the
    operation has changed nothing. -/
def run (q : JobQueue) (now : Instant) : Op → Except Fault (Answer × JobQueue)
  | .create name owner held =>
    let (id, q') := q.create now name owner held
    .ok (.number id, q')
  | .start id => (q.start now id).map fun q' => (.done, q')
  | .stop id => (q.stop id).map fun q' => (.done, q')
  | .impressions id n => (q.setImpressions id n).map fun q' => (.done, q')
  | .finish id state => (q.finish now id state).map fun q' => (.done, q')
  | .cancel id => (q.cancel now id).map fun p => (.flag p.1, p.2)
  | .cancelAll =>
    let (n, q') := q.cancelAll now
    .ok (.number n, q')

/-- Canceling a job that is not there fails with its number (`Problem.unknownJob`). -/
theorem cancel_eq_error {q : JobQueue} {now : Instant} {id : Int} (h : q.find? id = none) :
    q.cancel now id = .error (.problem (.unknownJob (.int id))) := by
  simp [cancel, get, h, bind, Except.bind]

end JobQueue

end PrinterConsole
