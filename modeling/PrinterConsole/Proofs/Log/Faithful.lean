/-
  The log of the program, held against what was logged.

  The log is to show every message from its level on, once and in order, the same on the console
  and in the file, and the errors among them in a file of their own (`IsFaithful`).  It does so
  exactly if it takes the messages from its level on and no error below it (`LosesNothing`), and
  its files have room for them (`HasRoom`).

  Three things can stand in the way of the first: a level that is not positive, the level zero of
  the log itself, for which `Settings.threshold` asks for warnings, and a name that the log does
  not hear (`IsHeard`).  For parts with plain names the last does not come up
  (`losesNothing_of_plain`).  A part whose name begins with `programName` is not put below it by
  `partName`, though, even if the name goes on with no dot.

  The room is that of the file: the second file shows fewer messages, so it has room whenever the
  file has (`HasRoom.sublist`).

  Main statement: `isFaithful_iff_losesNothing`.  `not_isFaithful_sibling_and_zero` is a part of
  the kind above, and the level zero.
-/
import Mathlib.Data.List.Flatten
import PrinterConsole.Proofs.Log.Files
import PrinterConsole.Proofs.Log.Names
import PrinterConsole.Proofs.Log.Run

namespace PrinterConsole.Log

open PrinterConsole.Text

/-! ## Texts

  Messages are compared as texts, as the console and the files show nothing else. -/

/-- If some of the messages have the `textOf` all, they are all of them: a line that is left out is
    missing from the text, for no line is empty. -/
theorem eq_of_textOf_eq {few all : List Message} (h : few.Sublist all)
    (htext : textOf few = textOf all) : few = all := by
  rw [← String.toList_inj, toList_textOf, toList_textOf] at htext
  induction h with
  | slnil => rfl
  | @cons few all m h ih =>
    have hle := (h.flatMap fun m => m.line.toList).length_le
    have hne : m.line.toList ≠ [] := fun hnil => line_ne_empty m (String.toList_eq_nil_iff.1 hnil)
    have hpos := List.length_pos_iff.2 hne
    rw [htext, List.flatMap_cons, List.length_append] at hle
    omega
  | @cons_cons few all m h ih =>
    rw [List.flatMap_cons, List.flatMap_cons] at htext
    rw [ih (List.append_cancel_left htext)]

/-! ## What is asked of the log

  `IsFaithful` is about what is written, `LosesNothing` about levels and names.  The two are told
  apart so that the condition can be checked without running the log. -/

/-- The `Settings` of the program's log, which keeps files. -/
def programLog (level : Int) : Settings := ⟨programName, level, true⟩

/-- The log shows the messages from its `level` on, behind what its setup writes: once and in order,
    on the console and in the file, and the errors among them in the second file.  Nothing of it has
    to be looked for in files that were put aside. -/
structure IsFaithful (level : Int) (setup : Setup) (ms : List Message) : Prop where
  console : (write (programLog level) setup ms).console =
    (write (programLog level) setup []).console ++ textOf (fromLevel level ms)
  file : ∃ f, (write (programLog level) setup ms).file = some f ∧
    f.Holds (write (programLog level) setup ms).console
  errors : ∃ f, (write (programLog level) setup ms).errors = some f ∧
    f.Holds (textOf (fromLevel errorLevel (fromLevel level ms)))

/-- The log hears the name of the message `m` that comes after those in `before`. -/
def HeardAfter (before : List Message) (m : Message) : Prop :=
  IsHeard ((before ++ [m]).map (·.name)) m.name

/-- When the log loses nothing of the messages `ms`, and shows nothing that was not asked for. -/
structure LosesNothing (level : Int) (ms : List Message) : Prop where
  /-- A message from the level on has a positive level, warnings at least if the level is zero, and
      is heard. -/
  asked : ∀ before m back, ms = before ++ m :: back → level ≤ m.level →
    0 < m.level ∧ (level = 0 → warningLevel ≤ m.level) ∧ HeardAfter before m
  /-- An error below the level is not heard, unless the first message of its name and level was. -/
  refused : ∀ before m back front first, ms = before ++ m :: back →
    IsFirst before m front first → errorLevel ≤ m.level → m.level < level →
      HeardAfter before m → HeardAfter front first

/-! ## Behind the setup

  The setup's own messages make the log's name known and settle nothing about any other name.  From
  there on a message is taken by two moments: when its name first came with its level, and when it
  comes itself (`takesAfter_iff`). -/

variable {level : Int} {setup : Setup}

/-- What is known of the parts when the setup has written its own messages (`opening`). -/
def opened (level : Int) (setup : Setup) : Parts :=
  (programLog level).after (programLog level).start ((programLog level).opening setup)

theorem isOpen_opened (level : Int) (setup : Setup) :
    (programLog level).IsOpen (opened level setup) :=
  Settings.isOpen_start.after fun m hm => (Settings.name_of_mem_opening m hm).1

/-- The setup logs under the log's own name, so `opened` knows no other. -/
theorem mem_names_opened {name : String} :
    name ∈ (opened level setup).names ↔ name = programName := by
  rw [opened, Settings.mem_names_after]
  constructor
  · rintro (hmem | hmem)
    · obtain ⟨m, hm, rfl⟩ := List.mem_map.1 hmem
      exact (Settings.name_of_mem_opening m hm).1
    · exact List.mem_singleton.1 hmem
  · exact fun h => .inr (List.mem_singleton.2 h)

/-- The log covers a name exactly if it hears it (`IsHeard`), by the names of the messages so
    far. -/
theorem covers_after_iff {ms : List Message} {name : String} :
    (programLog level).covers ((programLog level).after (opened level setup) ms).names name = true ↔
      IsHeard (ms.map (·.name)) name := by
  have hknown : programName ∈ ((programLog level).after (opened level setup) ms).names :=
    Settings.mem_names_after.2 (.inr (mem_names_opened.2 rfl))
  have hsame : ∀ i, 0 < i → (dotted i ∈ ((programLog level).after (opened level setup) ms).names ↔
      dotted i ∈ ms.map (·.name)) := by
    intro i hpos
    obtain ⟨n, rfl⟩ : ∃ n, i = n + 1 := ⟨i - 1, by omega⟩
    rw [Settings.mem_names_after, mem_names_opened, or_iff_left (dotted_succ_ne n).symm]
  rw [covers_iff rfl hknown]
  exact ⟨.congr hsame, .congr fun i hpos => (hsame i hpos).symm⟩

/-- The level from which on messages are let pass is the log's, and `warningLevel` for the level
    zero. -/
theorem threshold_programLog (level : Int) :
    (programLog level).threshold = if level = 0 then warningLevel else level := by
  have htop : programName ≠ topName := by decide
  simp only [Settings.threshold, programLog, and_iff_left htop]

/-- The log takes the message `m` that comes after those in `before`, behind its setup. -/
def TakesAfter (level : Int) (setup : Setup) (before : List Message)
    (m : Message) : Prop :=
  (programLog level).takes ((programLog level).after (opened level setup) (before ++ [m])) m = true

variable {before front : List Message} {m first : Message}

/-- **When the log takes a message**: it hears it, and the level was let pass when it first came
    (`takes_of_first`). -/
theorem takesAfter_iff (hfirst : IsFirst before m front first) :
    TakesAfter level setup before m ↔
      (0 < m.level ∧ (HeardAfter front first → (programLog level).threshold ≤ m.level) ∧
        (¬ HeardAfter front first → warningLevel ≤ m.level)) ∧ HeardAfter before m := by
  have hname : first.name = m.name := congrArg Prod.fst hfirst.key_eq
  have hcovers : (programLog level).covers
      ((programLog level).after (opened level setup) (front ++ [first])).names m.name = true ↔
        IsHeard ((front ++ [first]).map (·.name)) m.name := covers_after_iff
  rw [TakesAfter, Settings.takes_of_first (isOpen_opened level setup) hfirst, Bool.and_eq_true,
    covers_after_iff, Settings.letsPass, Bool.and_eq_true, decide_eq_true_eq, decide_eq_true_eq]
  refine and_congr_left fun _ => and_congr_right fun _ => ?_
  rw [HeardAfter, hname, ← hcovers]
  split <;> simp [*]

/-- A message that is taken was fit to be: of a positive level, at least a warning if the `level` of
    the log is zero, and heard. -/
theorem TakesAfter.asked (h : TakesAfter level setup before m) :
    0 < m.level ∧ (level = 0 → warningLevel ≤ m.level) ∧ HeardAfter before m := by
  obtain ⟨front, first, hfirst⟩ := exists_isFirst before m
  obtain ⟨⟨hpos, hheard, hunheard⟩, hafter⟩ := (takesAfter_iff hfirst).1 h
  refine ⟨hpos, fun hzero => ?_, hafter⟩
  by_cases hh : HeardAfter front first
  · have hle := hheard hh
    rwa [threshold_programLog, if_pos hzero] at hle
  · exact hunheard hh

/-- An error below the `level` is taken exactly if it is heard, and was let pass when its name was
    not heard yet. -/
theorem takesAfter_below_iff (hfirst : IsFirst before m front first) (herror : errorLevel ≤ m.level)
    (hbelow : m.level < level) :
    TakesAfter level setup before m ↔ HeardAfter before m ∧ ¬ HeardAfter front first := by
  have hpos : (40 : Int) ≤ m.level := herror
  have hwarning : warningLevel ≤ m.level := by
    show (30 : Int) ≤ m.level
    omega
  have hthreshold : ¬ (programLog level).threshold ≤ m.level := by
    rw [threshold_programLog, if_neg (by omega)]
    omega
  rw [takesAfter_iff hfirst]
  constructor
  · rintro ⟨⟨-, hheard, -⟩, hafter⟩
    exact ⟨hafter, fun h => hthreshold (hheard h)⟩
  · rintro ⟨hafter, hunheard⟩
    exact ⟨⟨by omega, fun h => absurd h hunheard, fun _ => hwarning⟩, hafter⟩

/-- If nothing is lost, every message from the `level` on is taken: the first one of its name and
    level was asked for as well, and so it was heard. -/
theorem LosesNothing.takesAfter {ms back : List Message} (h : LosesNothing level ms)
    (hms : ms = before ++ m :: back) (hlevel : level ≤ m.level) :
    TakesAfter level setup before m := by
  obtain ⟨hpos, hzero, hafter⟩ := h.asked before m back hms hlevel
  obtain ⟨front, first, hfirst⟩ := exists_isFirst before m
  obtain ⟨rest, hrest⟩ := hfirst.isPrefix
  have hfirstLevel : first.level = m.level := congrArg Prod.snd hfirst.key_eq
  have hsplit : ms = front ++ first :: (rest ++ back) := by
    rw [hms, List.append_cons, ← hrest]
    simp
  obtain ⟨-, -, hheard⟩ := h.asked front first (rest ++ back) hsplit (by omega)
  refine (takesAfter_iff hfirst).2 ⟨⟨hpos, fun _ => ?_, fun hn => absurd hheard hn⟩, hafter⟩
  rw [threshold_programLog]
  split
  · rename_i hz
    exact hzero hz
  · exact hlevel

/-! ## What is written

  Console and file get the same messages, so what is asked of them is one condition on messages, and
  one on room. -/

theorem fromLevel_append (low : Int) (front back : List Message) :
    fromLevel low (front ++ back) = fromLevel low front ++ fromLevel low back :=
  List.filter_append _ _

variable {ms : List Message}

def setupShown (level : Int) (setup : Setup) : List Message :=
  fromLevel level
    ((programLog level).taken (programLog level).start ((programLog level).opening setup))

/-- What the program's log takes of the messages `ms` behind its setup. -/
def takenBehind (level : Int) (setup : Setup) (ms : List Message) :
    List Message :=
  (programLog level).taken (opened level setup) ms

/-- The messages on the console and in the file: the setup's, and of the others those that are taken
    (`takenBehind`). -/
def shown (level : Int) (setup : Setup) (ms : List Message) : List Message :=
  setupShown level setup ++ fromLevel level (takenBehind level setup ms)

/-- The setup writes no errors, so those that are taken behind it are all: its messages have
    `infoLevel`. -/
theorem fromLevel_error_opening (level : Int) (setup : Setup) :
    fromLevel errorLevel ((programLog level).taken (programLog level).start
      ((programLog level).opening setup)) = [] := by
  refine List.filter_eq_nil_iff.2 fun m hm => ?_
  have hmem := (taken_sublist _ _ _).subset hm
  rw [(Settings.name_of_mem_opening m hmem).2]
  decide

/-- **What `programLog` writes**: console and file get the same messages, each in its own way. -/
theorem write_programLog (level : Int) (setup : Setup) (ms : List Message) :
    write (programLog level) setup ms =
      { console := textOf (shown level setup ms)
        file := some (.ofMessages (shown level setup ms))
        errors := some (.ofMessages (fromLevel errorLevel (takenBehind level setup ms))) } := by
  have hshown : fromLevel level ((programLog level).taken (programLog level).start
      ((programLog level).opening setup ++ ms)) = shown level setup ms := by
    rw [Settings.taken_append, fromLevel_append]
    rfl
  have herrors : fromLevel errorLevel ((programLog level).taken (programLog level).start
      ((programLog level).opening setup ++ ms)) =
        fromLevel errorLevel (takenBehind level setup ms) := by
    rw [Settings.taken_append, fromLevel_append, fromLevel_error_opening, List.nil_append]
    rfl
  show Written.mk (textOf (fromLevel level _)) (some (.ofMessages (fromLevel level _)))
    (some (.ofMessages (fromLevel errorLevel _))) = _
  rw [hshown, herrors]

theorem shown_nil (level : Int) (setup : Setup) :
    shown level setup [] = setupShown level setup := List.append_nil _

/-- Each part of `IsFaithful`, said of the messages that are shown: files by
    `LogFile.holds_ofMessages_iff`, of which the second clause is about texts. -/
theorem isFaithful_iff_shown :
    IsFaithful level setup ms ↔
      textOf (shown level setup ms) =
        textOf (setupShown level setup ++ fromLevel level ms) ∧
      HasRoom (shown level setup ms) ∧
      HasRoom (fromLevel errorLevel (takenBehind level setup ms)) ∧
      textOf (fromLevel errorLevel (fromLevel level ms)) =
        textOf (fromLevel errorLevel (takenBehind level setup ms)) := by
  rw [textOf_append _ (fromLevel level ms), ← shown_nil]
  constructor
  · rintro ⟨hconsole, hfile, herrors⟩
    rw [write_programLog, write_programLog level setup []] at hconsole
    rw [write_programLog] at hfile herrors
    obtain ⟨f, ⟨⟩, hf⟩ := hfile
    obtain ⟨e, ⟨⟩, he⟩ := herrors
    exact ⟨hconsole, (LogFile.holds_ofMessages_iff.1 hf).1, LogFile.holds_ofMessages_iff.1 he⟩
  · rintro ⟨hconsole, hroom, herrors⟩
    constructor
    · rw [write_programLog, write_programLog level setup []]
      exact hconsole
    · rw [write_programLog]
      exact ⟨_, rfl, LogFile.holds_ofMessages_iff.2 ⟨hroom, rfl⟩⟩
    · rw [write_programLog]
      exact ⟨_, rfl, LogFile.holds_ofMessages_iff.2 herrors⟩

/-- **The log is faithful exactly if** it takes what was asked for, and no error that was not, and
    the file has room for it.  Texts are messages again by `eq_of_textOf_eq`, and the second file
    has room by `HasRoom.sublist`. -/
theorem isFaithful_iff_takenBehind :
    IsFaithful level setup ms ↔
      (fromLevel level (takenBehind level setup ms) = fromLevel level ms ∧
        fromLevel errorLevel (takenBehind level setup ms) =
          fromLevel errorLevel (fromLevel level ms)) ∧
      HasRoom (setupShown level setup ++ fromLevel level ms) := by
  have hfew : (takenBehind level setup ms).Sublist ms := taken_sublist _ _ _
  rw [isFaithful_iff_shown]
  constructor
  · rintro ⟨hconsole, hroom, -, herrors⟩
    have htaken : fromLevel level (takenBehind level setup ms) = fromLevel level ms :=
      List.append_cancel_left (eq_of_textOf_eq ((hfew.filter _).append_left _) hconsole)
    refine ⟨⟨htaken, (eq_of_textOf_eq ?_ herrors).symm⟩, ?_⟩
    · rw [← htaken]
      exact List.filter_sublist.filter _
    · rw [← htaken]
      exact hroom
  · rintro ⟨⟨htaken, herrors⟩, hroom⟩
    rw [shown, htaken, herrors]
    refine ⟨rfl, hroom, hroom.sublist ?_, rfl⟩
    exact List.filter_sublist.trans (List.sublist_append_right _ _)

/-- From a level on, the log shows what was asked for exactly if of the messages from that level on
    it takes those that were asked for: `filter_taken_eq_filter_iff` for the program's log. -/
theorem fromLevel_takenBehind_iff (low : Int) :
    fromLevel low (takenBehind level setup ms) = fromLevel low (fromLevel level ms) ↔
      ∀ before m back, ms = before ++ m :: back → low ≤ m.level →
        (TakesAfter level setup before m ↔ level ≤ m.level) := by
  have hasked : ∀ m : Message, (decide (low ≤ m.level) && decide (level ≤ m.level)) = true →
      decide (low ≤ m.level) = true := fun m hm => (Bool.and_eq_true_iff.1 hm).1
  rw [fromLevel, fromLevel, fromLevel, List.filter_filter, takenBehind,
    Settings.filter_taken_eq_filter_iff hasked]
  simp only [Bool.and_eq_true, decide_eq_true_eq, TakesAfter]
  refine forall_congr' fun before => forall_congr' fun m => forall_congr' fun back =>
    forall_congr' fun _ => ?_
  tauto

/-- **What was asked for is taken, and no error besides, exactly if nothing is lost.**
    `LosesNothing` looks at messages and names alone, so each of its two clauses has to be met with
    the moment when the level was settled (`takesAfter_iff`). -/
theorem takenBehind_iff_losesNothing :
    (fromLevel level (takenBehind level setup ms) = fromLevel level ms ∧
        fromLevel errorLevel (takenBehind level setup ms) =
          fromLevel errorLevel (fromLevel level ms)) ↔
      LosesNothing level ms := by
  have hself : fromLevel level (fromLevel level ms) = fromLevel level ms := by
    rw [fromLevel, fromLevel, List.filter_filter]
    simp only [Bool.and_self]
  rw [← hself, fromLevel_takenBehind_iff, hself, fromLevel_takenBehind_iff]
  constructor
  · rintro ⟨hasked, herrors⟩
    constructor
    · intro before m back hms hlevel
      exact ((hasked before m back hms hlevel).2 hlevel).asked
    · intro before m back front first hms hfirst herror hbelow hafter
      by_contra hunheard
      -- an error that is heard now and was not then passes as one from elsewhere
      have htakes : TakesAfter level setup before m :=
        (takesAfter_below_iff hfirst herror hbelow).2 ⟨hafter, hunheard⟩
      have hle := (herrors before m back hms herror).1 htakes
      omega
  · intro h
    constructor
    · intro before m back hms hlevel
      exact iff_of_true (h.takesAfter hms hlevel) hlevel
    · intro before m back hms herror
      refine ⟨fun htakes => ?_, h.takesAfter hms⟩
      by_contra hbelow
      have hlt : m.level < level := by omega
      obtain ⟨front, first, hfirst⟩ := exists_isFirst before m
      obtain ⟨hafter, hunheard⟩ := (takesAfter_below_iff hfirst herror hlt).1 htakes
      exact hunheard (h.refused before m back front first hms hfirst herror hlt hafter)

/-- **The log is faithful exactly if it loses nothing and the file has room**:
    `isFaithful_iff_takenBehind` and `takenBehind_iff_losesNothing`. -/
theorem isFaithful_iff :
    IsFaithful level setup ms ↔
      LosesNothing level ms ∧ HasRoom (setupShown level setup ++ fromLevel level ms) := by
  rw [isFaithful_iff_takenBehind, takenBehind_iff_losesNothing]

/-! ## Parts and jobs

  Those who log do not choose their names freely: a part has its name put below the program's,
  unless it begins with that. -/

inductive Origin where
  | part (name : String)
  | job (id : Json)

/-- The full name under which an `Origin` logs. -/
def Origin.fullName : Origin → String
  | part name => partName name
  | job id => jobName id

/-- What an `Origin`, a part or a job, asks to be logged. -/
structure Request where
  origin : Origin
  level : Int
  text : String
  /-- The thread that asks. -/
  thread : String
  /-- When it asks. -/
  time : Instant

/-- The message that is logged, under the `fullName` of who asks. -/
def Request.message (r : Request) : Message :=
  ⟨r.origin.fullName, r.level, r.text, r.thread, r.time⟩

/-- The name of the `Origin` is no more than the program's, or stands behind it and one dot, or has
    neither the program's name nor a dot in front. -/
def Origin.IsPlain : Origin → Prop
  | part name =>
    name = programName ∨
      ∃ rest, rest.toList.head? ≠ some '.' ∧
        (name = programName ++ "." ++ rest ∨ name = rest ∧ startsWith programName name = false)
  | job _ => True

theorem partName_append (rest : String) : partName (programName ++ rest) = programName ++ rest :=
  if_pos (startsWith_iff.2 ⟨rest.toList, String.toList_append⟩)

theorem jobName_eq (id : Json) : jobName id = programName ++ "." ++ ("job." ++ id.shown) := by
  have hjob : ".job." = "." ++ "job." := by decide
  rw [jobName, hjob]
  simp only [String.append_assoc]

/-- Who has a plain name is heard, whatever is known: one dot counts as it stands
    (`isHeard_of_plain`). -/
theorem Origin.IsPlain.isHeard {o : Origin} (h : o.IsPlain) (known : List String) :
    IsHeard known o.fullName := by
  cases o with
  | job id =>
    show IsHeard known (jobName id)
    rw [jobName_eq]
    exact isHeard_of_plain known (by simp)
  | part name =>
    show IsHeard known (partName name)
    rcases h with rfl | ⟨rest, hrest, rfl | ⟨rfl, hstart⟩⟩
    · exact .inl (by decide)
    · rw [String.append_assoc, partName_append, ← String.append_assoc]
      exact isHeard_of_plain known hrest
    · rw [partName, hstart, if_neg Bool.false_ne_true]
      exact isHeard_of_plain known hrest

/-- **With plain names (`Origin.IsPlain`) nothing is lost from any positive level on**: every name
    is heard from its first message on. -/
theorem losesNothing_of_plain {rs : List Request} (hlevel : 0 < level)
    (hplain : ∀ r ∈ rs, r.origin.IsPlain) : LosesNothing level (rs.map Request.message) := by
  have hheard : ∀ m ∈ rs.map Request.message, ∀ before, HeardAfter before m := by
    intro m hm before
    obtain ⟨r, hr, rfl⟩ := List.mem_map.1 hm
    exact (hplain r hr).isHeard _
  constructor
  · intro before m back hms hle
    exact ⟨by omega, fun hzero => by omega, hheard m (by simp [hms]) before⟩
  · intro before m back front first hms hfirst _ _ _
    obtain ⟨rest, hrest⟩ := hfirst.isPrefix
    refine hheard first ?_ front
    rw [hms, List.append_cons, ← hrest]
    simp

/-- What a part asks for whose name goes on right behind the program's name is lost, since
    `partName` leaves such a name as it is and `not_isHeard_of_sibling` applies to it. -/
theorem not_losesNothing_of_sibling {rs : List Request} {r : Request} {rest : String} (hr : r ∈ rs)
    (hlevel : level ≤ r.level) (horigin : r.origin = .part (programName ++ rest)) (hne : rest ≠ "")
    (hrest : rest.toList.head? ≠ some '.') : ¬ LosesNothing level (rs.map Request.message) := by
  intro h
  obtain ⟨before, back, hsplit⟩ := List.append_of_mem (List.mem_map_of_mem (f := Request.message) hr)
  obtain ⟨-, -, hheard⟩ := h.asked before r.message back hsplit hlevel
  have hname : r.message.name = programName ++ rest := by
    rw [Request.message, horigin]
    exact partName_append rest
  rw [HeardAfter, hname] at hheard
  exact not_isHeard_of_sibling _ hne hrest hheard

/-- **When the log shows what parts and jobs ask for, once and in order**: exactly if it loses none
    of it and the file has room for all of it.  So it does if all names are plain, the level of the
    log is positive, and everything together is less than `fileLimit` bytes.  Without room the files
    still show, all together, how what is on the console ends, and all of it as long as fewer than
    `keptFiles` were put aside. -/
theorem isFaithful_iff_losesNothing (level : Int) (setup : Setup)
    (rs : List Request) :
    let ms := rs.map Request.message
    let asked := setupShown level setup ++ fromLevel level ms
    (IsFaithful level setup ms ↔ LosesNothing level ms ∧ HasRoom asked) ∧
    (0 < level → (∀ r ∈ rs, r.origin.IsPlain) → (textOf asked).utf8ByteSize < fileLimit →
      IsFaithful level setup ms) ∧
    ∃ f lost, (write (programLog level) setup ms).file = some f ∧
      lost ++ f.whole = (write (programLog level) setup ms).console ∧
      (f.aside.length < keptFiles → lost = "") := by
  intro ms asked
  refine ⟨isFaithful_iff, fun hlevel hplain hsize => ?_, ?_⟩
  · exact isFaithful_iff.2 ⟨losesNothing_of_plain hlevel hplain, hasRoom_of_utf8ByteSize_lt hsize⟩
  · obtain ⟨lost, hwhole, hlost⟩ := LogFile.exists_lost_append_whole (shown level setup ms)
    rw [write_programLog]
    exact ⟨_, lost, rfl, hwhole, hlost⟩

/-- The log does not show everything.  The messages of a part are lost if its name goes on right
    behind `programName`, and with the level zero those below `warningLevel`. -/
theorem not_isFaithful_sibling_and_zero :
    let setup : Setup := ⟨"logs", "MainThread", ⟨0⟩, ⟨0⟩⟩
    ¬ IsFaithful infoLevel setup
      ([⟨.part "printer_administrator", infoLevel, "ready", "MainThread", ⟨1⟩⟩].map
        Request.message) ∧
    ¬ IsFaithful 0 setup
      ([⟨.part "app", infoLevel, "ready", "MainThread", ⟨1⟩⟩].map Request.message) := by
  intro setup
  constructor
  · let r : Request := ⟨.part "printer_administrator", infoLevel, "ready", "MainThread", ⟨1⟩⟩
    have horigin : r.origin = .part (programName ++ "istrator") := rfl
    have hlost : ¬ LosesNothing infoLevel ([r].map Request.message) :=
      not_losesNothing_of_sibling (List.mem_singleton_self r) (Int.le_refl _) horigin (by decide)
        (by decide)
    exact fun h => hlost (isFaithful_iff.1 h).1
  · intro h
    obtain ⟨-, hzero, -⟩ := (isFaithful_iff.1 h).1.asked [] _ [] rfl (by decide)
    exact absurd (hzero rfl) (by decide)

end PrinterConsole.Log
