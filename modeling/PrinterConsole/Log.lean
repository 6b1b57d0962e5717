/-
  The log: messages of the console's parts, in the order in which they are given.

  A part logs under a name, and names form a tree by their dots (`namesAbove`).  The log has a
  name in that tree and takes the messages of the names at or below its own, from a level on
  (`Settings.taken`).  It writes them as lines to the console and, if files are kept, to a file;
  errors go to a second file besides (`write`).

  The tree holds the names that are known, and a name is known from its first message on.  With
  its first message of a level, a part also settles whether it lets that level pass: `Parts` is
  what a run of messages carries along.

  A file does not grow for ever.  One that would come to `fileLimit` with the next line is put
  aside and begun anew, and only the newest `keptFiles` of those put aside are held
  (`LogFile.add`).  So the console is the one place where everything can be read that was ever
  written.

  Main statement: what is written are messages that were given, in their order (`taken_sublist`).
-/
import PrinterConsole.Json.Display
import PrinterConsole.Text.Part
import PrinterConsole.Time

namespace PrinterConsole.Log

open PrinterConsole.Number PrinterConsole.Text

/-! ## Names -/

/-- The name of the whole program, and of its log unless it is given another. -/
def programName : String := "printer_admin"

/-- The full name of the part `name`: names are put below the program's name, with a dot between.  A
    name that begins with the program's name is taken to be full already, also where no dot
    follows. -/
def partName (name : String) : String :=
  if startsWith programName name then name else programName ++ "." ++ name

/-- The full name under which the job `id` is logged. -/
def jobName (id : Json) : String := programName ++ ".job." ++ id.shown

/-- The name at the top of the tree, above all others and without a dot of its own. -/
def topName : String := "root"

/-- The `known` names above a name, nearest first; the name is read backwards.  What stands before a
    dot is above.  If it is not known, its last character is passed over with the dot, so that of
    two dots next to each other only the last one counts. -/
def namesAbove (known : List String) : List Char → List String
  | [] => []
  | [_] => []
  | c :: d :: front =>
    if c = '.' then
      let name := String.ofList (d :: front).reverse
      if name ∈ known then name :: namesAbove known (d :: front) else namesAbove known front
    else namesAbove known (d :: front)

/-- What is known of the parts. -/
structure Parts where
  /-- The names under which there was a message, and the name of the log. -/
  names : List String
  /-- Whether a name lets a level pass, for those that have settled it. -/
  settled : List ((String × Int) × Bool)
  deriving DecidableEq, Repr

/-! ## Messages -/

/-- A message of a part. -/
structure Message where
  /-- The full name of the part. -/
  name : String
  level : Int
  text : String
  /-- The thread that logged it. -/
  thread : String
  /-- When it was logged, as the clock on the wall shows it. -/
  time : Instant
  deriving DecidableEq, Repr

/-- The level of what is told for information. -/
def infoLevel : Int := 20
/-- The level of warnings, from which on messages pass where nothing else is asked for. -/
def warningLevel : Int := 30
/-- The level of errors, from which on messages go to the second file. -/
def errorLevel : Int := 40

/-- The name of a `level`; a level between the named ones is told by its number. -/
def levelName (level : Int) : String :=
  if level = 50 then "CRITICAL"
  else if level = errorLevel then "ERROR"
  else if level = warningLevel then "WARNING"
  else if level = infoLevel then "INFO"
  else if level = 10 then "DEBUG"
  else if level = 0 then "NOTSET"
  else "Level " ++ intText level

/-- The `text` filled up with blanks to a width. -/
def padded (width : Nat) (text : String) : String :=
  text ++ String.ofList (List.replicate (width - text.length) ' ')

/-- The line of a message, its `stamp` first; the name of the level is `padded` to a width of 8. -/
def Message.line (m : Message) : String :=
  m.time.stamp ++ " [" ++ padded 8 (levelName m.level) ++ "] [" ++ m.thread ++ "] " ++ m.name ++
    " - " ++ m.text ++ "\n"

/-! ## Writing -/

/-- How the log is set up. -/
structure Settings where
  name : String
  level : Int
  /-- Files are kept. -/
  files : Bool
  deriving DecidableEq, Repr

/-- Where a log is set up, and what its own messages say of that. -/
structure Setup where
  folder : String
  /-- The thread that sets the log up. -/
  thread : String
  /-- When it tells of the file, if files are kept. -/
  fileTime : Instant
  /-- When it tells of the level, its last message. -/
  levelTime : Instant
  deriving DecidableEq, Repr

namespace Settings

/-- The least `level` that is taken.  A log below the top whose level is zero takes warnings. -/
def threshold (s : Settings) : Int :=
  if s.level = 0 ∧ s.name ≠ topName then warningLevel else s.level

/-- Messages under `name` come to the log, if they are let pass: the log is at the top, at the name
    or above it. -/
def covers (s : Settings) (known : List String) (name : String) : Bool :=
  s.name == topName || name == s.name ||
    (namesAbove known name.toList.reverse).contains s.name

/-- The `name` lets a `level` pass: what the log asks for where the log covers the name, and
    warnings elsewhere.  Levels that are not positive never pass. -/
def letsPass (s : Settings) (known : List String) (name : String) (level : Int) : Bool :=
  0 < level && (if s.covers known name then s.threshold else warningLevel) ≤ level

/-- What is known of the parts before the first message. -/
def start (s : Settings) : Parts := ⟨[s.name], []⟩

/-- What is known of the parts with the message `m`: its name, and whether the name lets its level
    pass, which is not asked again once it is settled. -/
def meet (s : Settings) (p : Parts) (m : Message) : Parts :=
  let names := m.name :: p.names
  match p.settled.lookup (m.name, m.level) with
  | some _ => ⟨names, p.settled⟩
  | none => ⟨names, ((m.name, m.level), s.letsPass names m.name m.level) :: p.settled⟩

/-- The log takes the message `m` that is met: its level is let pass, and the log covers its
    name. -/
def takes (s : Settings) (p : Parts) (m : Message) : Bool :=
  (p.settled.lookup (m.name, m.level)).getD false && s.covers p.names m.name

/-- The messages that the log takes, from what is known, `p`, before the first of them. -/
def taken (s : Settings) : Parts → List Message → List Message
  | _, [] => []
  | p, m :: rest =>
    let p := s.meet p m
    if s.takes p m then m :: s.taken p rest else s.taken p rest

/-- What the log tells of its own `setup`: the file, if there is one, and the level. -/
def opening (s : Settings) (setup : Setup) : List Message :=
  let note (text : String) (time : Instant) : Message :=
    ⟨s.name, infoLevel, text, setup.thread, time⟩
  let fileText := "File logging enabled: " ++ setup.folder ++ "/" ++ s.name ++ ".log"
  (if s.files then [note fileText setup.fileTime] else []) ++
    [note ("Logging configured at level " ++ levelName s.level) setup.levelTime]

end Settings

/-- The lines of the messages `ms` as one text, as the console shows them. -/
def textOf (ms : List Message) : String := String.join (ms.map Message.line)

/-- The messages from the `level` on, in their order. -/
def fromLevel (level : Int) (ms : List Message) : List Message := ms.filter fun m => level ≤ m.level

/-! ## Files -/

/-- The size that a `LogFile` must not come to, in bytes: 10 MiB. -/
def fileLimit : Nat := 10 * 1024 * 1024

/-- How many of the files that were put aside are held. -/
def keptFiles : Nat := 5

/-- A file of the log. -/
structure LogFile where
  text : String := ""
  /-- The texts of the files that were put aside and are still held, the newest first. -/
  aside : List String := []
  deriving DecidableEq, Repr

namespace LogFile

/-- The message would bring the file to `fileLimit`.  The file is measured in bytes, but the line of
    the message in characters. -/
def isFullFor (f : LogFile) (m : Message) : Bool :=
  fileLimit ≤ f.text.utf8ByteSize + m.line.length

/-- The file begun anew, with the old one put aside; the oldest one aside is dropped if there are
    more than `keptFiles`. -/
def putAside (f : LogFile) : LogFile := ⟨"", (f.text :: f.aside).take keptFiles⟩

/-- The file with one more message, put aside before that if it `isFullFor` it. -/
def add (f : LogFile) (m : Message) : LogFile :=
  let f := if f.isFullFor m then f.putAside else f
  { f with text := f.text ++ m.line }

/-- A file that holds nothing yet, with the messages `ms` added one after another. -/
def ofMessages (ms : List Message) : LogFile := ms.foldl add {}

/-- All that is still held: the files aside, the oldest first, and the file itself. -/
def whole (f : LogFile) : String := String.join f.aside.reverse ++ f.text

end LogFile

/-! ## The whole log -/

/-- What the log has written. -/
structure Written where
  console : String
  /-- The file, if files are kept, and the errors in a file of their own. -/
  file : Option LogFile
  errors : Option LogFile
  deriving DecidableEq, Repr

/-- Sets a log up, in a folder without files of a log, and logs the messages behind its own.  The
    console and the file get what is taken from the level of the log on, and the second file gets
    the errors that are taken. -/
def write (s : Settings) (setup : Setup) (ms : List Message) : Written :=
  let messages := s.taken s.start (s.opening setup ++ ms)
  let shown := fromLevel s.level messages
  { console := textOf shown
    file := if s.files then some (.ofMessages shown) else none
    errors := if s.files then some (.ofMessages (fromLevel errorLevel messages)) else none }

/-- The log adds nothing and changes no order: `taken` drops messages from the list that it is
    given, whatever is known of the parts before it. -/
theorem taken_sublist (s : Settings) (p : Parts) (ms : List Message) :
    (s.taken p ms).Sublist ms := by
  induction ms generalizing p with
  | nil => exact .slnil
  | cons m rest ih =>
    rw [Settings.taken]
    split
    · exact (ih _).cons_cons m
    · exact (ih _).cons m

end PrinterConsole.Log
