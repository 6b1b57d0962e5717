/-
  The state file: one JSON file in a folder of its own.

  A save writes a draft beside the file and then puts it in the file's place, so that a file is
  either the old text or the new one, never a part of it.  What can stand in the way is part of
  the model: the folder may be missing (`absent`), something else may stand in its place
  (`blocked`), or the file's name may be taken by a folder.

  `load` is the inverse of a save that succeeds.  A file that is not there is no value and no
  fault; a file that is there and cannot be read is the fault `failure`, except that bytes which
  are no text (`Fault.undecodable`) and whole numbers that are too long (`Fault.badNumeral`) are
  faults of their own.

  Main statements: a save that fails leaves the file as it was (`target_of_save_error`), and one
  that succeeds leaves the whole text and no draft (`save_ok`).
-/
import PrinterConsole.Fault
import PrinterConsole.Json.Display
import PrinterConsole.Json.Reader
import PrinterConsole.Json.Writer

namespace PrinterConsole

/-- What stands under a name. -/
inductive Entry where
  | file (bytes : ByteArray)
  | folder

/-- The place of the state file. -/
inductive StateFile where
  /-- The folder does not exist yet. -/
  | absent
  /-- A plain file stands in the folder's place. -/
  | blocked
  /-- The folder, with what stands under the file's name and whether a draft was left behind. -/
  | inFolder (target : Option Entry) (draft : Bool)

namespace StateFile

/-- The name of the file. -/
def fileName : String := "printer.json"
/-- The name of the draft beside the file. -/
def draftName : String := fileName ++ ".tmp"

/-- What stands under the file's name (`fileName`). -/
def target? : StateFile → Option Entry
  | .inFolder target _ => target
  | _ => none

/-- The text of the file `s`, if there is one and its bytes are a text. -/
def text? (s : StateFile) : Option String :=
  match s.target? with
  | some (.file bytes) => String.fromUTF8? bytes
  | _ => none

/-- The names in the folder, in alphabetical order. -/
def names : StateFile → Option (List String)
  | .inFolder target draft =>
    some ((if target.isSome then [fileName] else []) ++ (if draft then [draftName] else []))
  | _ => none

/-- The problem of a file that cannot be read or written, as `Printer.isFileFailure` recognises
    it. -/
def failure (reason : String) : Fault := .problem (.stateFile fileName reason)

/-! ## Loading -/

/-- The value that bytes hold: a text in UTF-8, and that text a JSON value (`Json.read`). -/
def decode (bytes : ByteArray) : Except Fault Json :=
  match String.fromUTF8? bytes with
  | none => .error .undecodable
  | some text =>
    match Json.read text with
    | .ok v => .ok v
    | .error .malformed => .error (failure "not a JSON text")
    | .error .longNumeral => .error .badNumeral

/-- The saved value of `s`, if there is a file; without one there is nothing saved, which is no
    fault. -/
def load (s : StateFile) : Except Fault (Option Json) :=
  match s.target? with
  | none => .ok none
  | some .folder => .error (failure "a folder stands in the file's place")
  | some (.file bytes) => (decode bytes).map some

/-! ## Saving -/

/-- The bytes of a saved value.  The text is in ASCII alone (`Json.text`), so a byte is a
    character. -/
def encode (v : Json) : ByteArray := v.text.toUTF8

/-- Saves a value.  A number that cannot be written (`Json.writable`) is found out while the draft
    is being written and leaves it behind; so does a folder under the file's name, which the draft
    cannot replace. -/
def save (s : StateFile) (v : Json) : Except Fault Unit × StateFile :=
  match s with
  | .blocked => (.error (failure "a file stands in the folder's place"), .blocked)
  | _ =>
    if !v.writable then (.error .unwritableNumber, .inFolder s.target? true)
    else
      match s.target? with
      | some .folder =>
        (.error (failure "a folder stands in the file's place"), .inFolder (some .folder) true)
      | _ => (.ok (), .inFolder (some (.file (encode v))) false)

/-- Whatever makes `save` fail, what stands under the file's name is what stood there: nothing but
    the draft is touched before the last step. -/
theorem target_of_save_error {s s' : StateFile} {v : Json} {e : Fault}
    (h : s.save v = (.error e, s')) : s'.target? = s.target? := by
  unfold save at h
  split at h
  · cases h; rfl
  · split at h
    · cases h; rfl
    · split at h
      · rename_i ht
        cases h; exact ht.symm
      · cases h

/-- A save that succeeds leaves the bytes of the whole value (`encode`) under the file's name, and
    no draft, whatever was there before. -/
theorem save_ok {s s' : StateFile} {v : Json} (h : s.save v = (.ok (), s')) :
    s' = .inFolder (some (.file (encode v))) false := by
  unfold save at h
  split at h
  · cases h
  · split at h
    · cases h
    · split at h
      · cases h
      · cases h; rfl

end StateFile

end PrinterConsole
