/-
  A printer: its name, identity, driver options, supplies, status and jobs.

  Identity and driver options are edited as a whole: an edit (`editDriver`, `editIdentity`) works
  on a copy, which is kept when the edit comes to its end.  Driver options are kept only if their
  ready media still belong to their sources (`DriverOptions.Aligned`).  What is kept is then
  saved, if the printer has a state file; that the file cannot be written does not undo the edit,
  and neither does a record with a number that cannot be written, though that one is told as a
  fault.

  `record` is what a save writes and `restore` what a restart reads: name, identity and driver
  options.  Jobs, supplies and status belong to the device and are not saved.

  Main statements: saving touches the state file only (`driver_save`), and an edit that fails
  before it is kept changes nothing (`editDriver_of_error`).
-/
import PrinterConsole.Driver.Codec
import PrinterConsole.Identity.Basic
import PrinterConsole.Jobs.Queue
import PrinterConsole.StateFile
import PrinterConsole.Status.Summary
import PrinterConsole.Status.Supply

namespace PrinterConsole

/-- The state of one printer. -/
structure Printer where
  name : String
  driver : DriverOptions
  identity : Identity := {}
  supplies : List Supply := []
  state : PrinterState := .idle
  /-- The set of reasons for the state. -/
  reasons : Int := 0
  queue : JobQueue := {}
  /-- Where identity and driver options are saved, if they are. -/
  file : Option StateFile := none

namespace Printer

/-- The members of the record of a printer, of which `restore` reads the last two. -/
def record (p : Printer) : List (String × Json) :=
  [("name", .string p.name),
   ("identity", p.identity.toJson),
   ("driver", p.driver.toJson)]

/-- What is saved of the printer `p`. -/
def toJson (p : Printer) : Json := .object p.record

/-! ## Saving and restoring -/

/-- The state file could not be read or written.  Such a failure is logged and passed over by `save`
    and `savedValue`; any other fault is not. -/
def isFileFailure : Fault → Bool
  | .problem (.stateFile ..) => true
  | _ => false

/-- Saves a printer, in its `file` if it has one.  That the file cannot be written is no failure,
    but a record that cannot be written (`Json.writable`) is one, and either way the file may be
    left in another state than before. -/
def save (p : Printer) : Except Fault Unit × Printer :=
  match p.file with
  | none => (.ok (), p)
  | some file =>
    match file.save p.toJson with
    | (.ok (), after) => (.ok (), { p with file := some after })
    | (.error e, after) =>
      (if isFileFailure e then .ok () else .error e, { p with file := some after })

/-- The value that a `file` holds, if it can be read at all: a file that is no JSON text counts as
    one that is not there. -/
def savedValue (file : StateFile) : Except Fault (Option Json) :=
  match file.load with
  | .ok v => .ok v
  | .error e => if isFileFailure e then .ok none else .error e

/-- A printer with identity and driver options from a file, or as they are if nothing is saved.  A
    member that the record does not have is read as an empty record, hence as the defaults of
    `DriverOptions` or `Identity`. -/
def restore (p : Printer) (file : StateFile) : Except Fault Printer := do
  match (← savedValue file).filter Json.truthy with
  | none => return { p with file := some file }
  | some saved =>
    let r ← saved.toRecord
    let driver ← DriverOptions.ofJson (Json.memberD r "driver" (.object []))
    let identity ← Identity.ofJson (Json.memberD r "identity" (.object []))
    return { p with driver := driver, identity := identity, file := some file }

/-! ## Edits -/

/-- Edits the driver options by `edit`.  The fault of an edit that leaves the ready media misaligned
    tells both lengths; the options are then those from before the edit. -/
def editDriver {β : Type} (p : Printer)
    (edit : DriverOptions → Except Fault (DriverOptions × β)) : Except Fault β × Printer :=
  match edit p.driver with
  | .error e => (.error e, p)
  | .ok (o, b) =>
    if o.Aligned then
      let (saved, after) := { p with driver := o }.save
      (saved.map fun _ => b, after)
    else (.error (.misaligned o.mediaReady.length o.sources.length), p)

/-- Edits the identity by `edit`; there is nothing to check after the edit. -/
def editIdentity {β : Type} (p : Printer) (edit : Identity → Except Fault (Identity × β)) :
    Except Fault β × Printer :=
  match edit p.identity with
  | .error e => (.error e, p)
  | .ok (i, b) =>
    let (saved, after) := { p with identity := i }.save
    (saved.map fun _ => b, after)

/-- Replaces the ready media by `media`, as an edit: a list of another length than the sources is
    refused. -/
def setReadyMedia (p : Printer) (media : List LoadedMedia) : Except Fault Unit × Printer :=
  p.editDriver fun o => .ok ({ o with mediaReady := media }, ())

/-- Sets the status, as the device reports it; of the reasons only the bits that name a `Reason` are
    kept. -/
def setStatus (p : Printer) (state : PrinterState) (reasons : Int) : Printer :=
  { p with state := state, reasons := Vocabulary.unsigned Reason reasons }

/-- The status in one line (`Status.summary`), which counts the jobs that have not ended. -/
def statusText (p : Printer) : String := Status.summary p.state p.reasons p.queue.activeCount

/-! ## What edits keep -/

/-- `save` changes nothing but the state file, so the driver options after it are those it was asked
    to save. -/
@[simp]
theorem driver_save (p : Printer) : p.save.2.driver = p.driver := by
  unfold save
  split
  · rfl
  · split <;> rfl

/-- An `edit` that fails before it is kept leaves the whole printer as it was, the state file
    included, and tells its own fault. -/
theorem editDriver_of_error {β : Type} {p : Printer}
    {edit : DriverOptions → Except Fault (DriverOptions × β)} {e : Fault}
    (h : edit p.driver = .error e) : p.editDriver edit = (.error e, p) := by
  simp [editDriver, h]

end Printer

end PrinterConsole
