/-
  The state file is all or nothing.

  A save is a run of moves: make the folder, open the draft, write to it piece by piece, put it in
  the file's place (`saveMoves`).  Each of them can fail, and a failure may leave a draft behind
  that later saves meet.  Only the last move touches the file, and by then the draft holds the
  whole text; so wherever a save stops, the file holds what it held before or all of what was
  saved.

  The moves work on a `Disk`, which has the bytes of the draft; the store itself sees of the draft
  only that it is there (`Disk.view`).  That the moves come to what the store's `save` says is
  proved for any pieces in which the writer may hand the text over (`IsHanded`).

  What stands under the file's name is therefore told by the last save that succeeded, whatever
  failed before and after it (`target_afterAll`, by induction on the calls).

  Main statements: the moves of a save come to what `save` says (`runMoves_saveMoves`), a save
  that is cut short at any move leaves the old file or the new one (`target_of_cut_save`), and
  after any run of calls the file is that of the last save that succeeded (`all_or_nothing`).
-/
import PrinterConsole.Proofs.State.Restart

namespace PrinterConsole.StateFile

/-! ## The moves of a save

  A save is a list of `Move`s on a disk, some of which write a piece of the draft.  It can be cut
  after any of them, as if the program had ended there. -/

/-- The place of the state file, as `StateFile` has it, with the bytes of its draft. -/
inductive Disk where
  | absent
  | blocked
  | inFolder (target : Option Entry) (draft : Option ByteArray)

/-- What a disk is for the store: of the draft only that it is there, as `StateFile` tells. -/
def Disk.view : Disk → StateFile
  | .absent => .absent
  | .blocked => .blocked
  | .inFolder target draft => .inFolder target draft.isSome

/-- One move of a save on a `Disk`. -/
inductive Move where
  | makeFolder
  /-- Opens the draft and empties it. -/
  | openDraft
  | write (piece : String)
  /-- The writer meets a number that it cannot write. -/
  | refuse
  | putInPlace

/-- What a move makes of a `Disk`.  A move that fails changes nothing. -/
def Move.apply : Move → Disk → Except Fault Disk
  | .makeFolder, .absent => .ok (.inFolder none none)
  | .makeFolder, .blocked => .error (failure "a file stands in the folder's place")
  | .makeFolder, .inFolder target draft => .ok (.inFolder target draft)
  | .openDraft, .inFolder target _ => .ok (.inFolder target (some .empty))
  | .write piece, .inFolder target (some bytes) =>
    .ok (.inFolder target (some (bytes ++ piece.toUTF8)))
  | .refuse, _ => .error .unwritableNumber
  | .putInPlace, .inFolder (some .folder) (some _) =>
    .error (failure "a folder stands in the file's place")
  | .putInPlace, .inFolder _ (some bytes) => .ok (.inFolder (some (.file bytes)) none)
  | _, _ => .error (failure "there is no draft")

/-- Moves one after another on a `Disk`, up to the first that fails. -/
def runMoves (disk : Disk) : List Move → Except Fault Unit × Disk
  | [] => (.ok (), disk)
  | m :: rest =>
    match m.apply disk with
    | .ok after => runMoves after rest
    | .error e => (.error e, disk)

/-- The moves of a save of `v` whose writer hands over `pieces`. -/
def saveMoves (v : Json) (pieces : List String) : List Move :=
  .makeFolder :: .openDraft ::
    (pieces.map .write ++ [if v.writable then .putInPlace else .refuse])

/-- What the writer may hand over: all of the text of `v`, in any pieces, or anything before a
    number that it cannot write. -/
def IsHanded (v : Json) (pieces : List String) : Prop :=
  v.writable = true → String.join pieces = v.text

/-! ## What a move does

  Only one move touches the file itself, and it comes last.  So a save that was cut has left the
  file alone, or is complete. -/

/-- Only `Move.putInPlace` touches the file. -/
theorem Move.target_apply {m : Move} {disk after : Disk} (hm : m ≠ .putInPlace)
    (h : m.apply disk = .ok after) : after.view.target? = disk.view.target? := by
  rcases m with - | - | piece | - | -
  case putInPlace => exact absurd rfl hm
  case refuse => cases h
  all_goals
    rcases disk with - | - | ⟨target, - | bytes⟩ <;> cases h <;> rfl

/-- No `Move` but `putInPlace` touches the file itself. -/
theorem target_runMoves {moves : List Move} (hm : ∀ m ∈ moves, m ≠ .putInPlace) (disk : Disk) :
    (runMoves disk moves).2.view.target? = disk.view.target? := by
  induction moves generalizing disk with
  | nil => rfl
  | cons m rest ih =>
    obtain ⟨hfirst, hrest⟩ := List.forall_mem_cons.1 hm
    rw [runMoves]
    cases h : m.apply disk with
    | error e => rfl
    | ok after => exact (ih hrest after).trans (m.target_apply hfirst h)

/-- Writing piece by piece comes to writing what the `pieces` are together. -/
theorem runMoves_writes (target : Option Entry) (bytes : ByteArray) (pieces : List String)
    (rest : List Move) :
    runMoves (.inFolder target (some bytes)) (pieces.map .write ++ rest) =
      runMoves (.inFolder target (some (bytes ++ (String.join pieces).toUTF8))) rest := by
  induction pieces generalizing bytes with
  | nil =>
    have hnone : bytes ++ (String.join []).toUTF8 = bytes := by
      simp [String.toUTF8, String.join_nil]
    rw [hnone]
    rfl
  | cons piece pieces ih =>
    have hjoin : bytes ++ (String.join (piece :: pieces)).toUTF8 =
        bytes ++ piece.toUTF8 ++ (String.join pieces).toUTF8 := by
      rw [String.join_cons, String.toUTF8, String.toByteArray_append, ByteArray.append_assoc]
      rfl
    rw [hjoin, ← ih]
    rfl

/-- The moves of a save (`saveMoves`) in a folder that is there. -/
theorem runMoves_inFolder (target : Option Entry) (draft : Option ByteArray) {v : Json}
    {pieces : List String} (h : IsHanded v pieces) :
    Prod.map id Disk.view (runMoves (.inFolder target draft) (saveMoves v pieces)) =
      (StateFile.inFolder target draft.isSome).save v := by
  have hwritten : runMoves (.inFolder target draft) (saveMoves v pieces) = runMoves
      (.inFolder target (some (.empty ++ (String.join pieces).toUTF8)))
      [if v.writable then .putInPlace else .refuse] :=
    runMoves_writes target .empty pieces _
  rw [hwritten]
  by_cases hw : v.writable = true
  · rw [if_pos hw, h hw, ByteArray.empty_append]
    rcases target with - | ⟨bytes | -⟩ <;> simp only [save, hw] <;> rfl
  · rw [if_neg hw]
    rw [Bool.not_eq_true] at hw
    simp only [save, hw]
    rfl

/-- **The moves of a save come to what `save` says**, in whatever `pieces` its text is written. -/
theorem runMoves_saveMoves (disk : Disk) {v : Json} {pieces : List String} (h : IsHanded v pieces) :
    Prod.map id Disk.view (runMoves disk (saveMoves v pieces)) = disk.view.save v := by
  rcases disk with - | - | ⟨target, draft⟩
  case absent =>
    -- the first move makes an empty folder
    rw [show runMoves .absent (saveMoves v pieces) =
      runMoves (.inFolder none none) (saveMoves v pieces) from rfl, runMoves_inFolder none none h]
    rfl
  case blocked => rfl
  case inFolder => exact runMoves_inFolder target draft h

/-- **A save that is cut short leaves the old file or the new one**, whole, wherever it stops: after
    the first `k` of its moves. -/
theorem target_of_cut_save (disk : Disk) {v : Json} {pieces : List String} (h : IsHanded v pieces)
    (k : Nat) :
    let cut := (runMoves disk ((saveMoves v pieces).take k)).2
    cut.view.target? = disk.view.target? ∨ cut.view.target? = some (.file (encode v)) := by
  intro cut
  let opening : List Move := .makeFolder :: .openDraft :: pieces.map .write
  have hmoves : saveMoves v pieces =
      opening ++ [if v.writable then .putInPlace else .refuse] := rfl
  by_cases hk : k ≤ opening.length
  · -- the save stops before the draft is put in its place
    left
    have hcut : (saveMoves v pieces).take k = opening.take k := by
      rw [hmoves, List.take_append_of_le_length hk]
    have hkeep : ∀ m ∈ opening.take k, m ≠ .putInPlace := by
      intro m hm
      have hin := List.mem_of_mem_take hm
      simp only [opening, List.mem_cons, List.mem_map] at hin
      rcases hin with rfl | rfl | ⟨piece, -, rfl⟩ <;> nofun
    show (runMoves disk ((saveMoves v pieces).take k)).2.view.target? = _
    rw [hcut]
    exact target_runMoves hkeep disk
  · -- all moves were made, so this is a whole save
    have hwhole : (saveMoves v pieces).take k = saveMoves v pieces := by
      apply List.take_of_length_le
      rw [hmoves, List.length_append, List.length_singleton]
      omega
    have hcut : cut.view = (disk.view.save v).2 := by
      rw [← runMoves_saveMoves disk h, ← hwhole]
      rfl
    rw [hcut]
    rcases hs : disk.view.save v with ⟨e | u, s'⟩
    · exact .inl (target_of_save_error hs)
    · exact .inr (congrArg target? (save_ok hs))

/-! ## Calls

  From any state of the folder, a run of calls: what the file holds is what the last save that
  succeeded has put there, or what was there at the start. -/

/-- A call of the store: to `save` a value or to `load` one. -/
inductive Call where
  | save (v : Json)
  | load

/-- The state file after a `Call`. -/
def after (s : StateFile) : Call → StateFile
  | .save v => (s.save v).2
  | .load => s

/-- The state file after the `calls`, one after another, whatever becomes of each. -/
def afterAll (s : StateFile) (calls : List Call) : StateFile := calls.foldl after s

/-- The data that a `Call` saves, if it does. -/
def saved? (s : StateFile) : Call → Option Json
  | .save v =>
    match (s.save v).1 with
    | .ok _ => some v
    | .error _ => none
  | .load => none

/-- The data of the last save among the calls that succeeded (`saved?`). -/
def lastSaved? (s : StateFile) : List Call → Option Json
  | [] => none
  | c :: rest => (lastSaved? (s.after c) rest).or (s.saved? c)

/-- What stands under the file's name once `v` was saved: its whole text, `encode v`. -/
def holding (v : Json) : Option Entry := some (.file (encode v))

/-- A call leaves the file as it was, or it saves data that can be written and the file is theirs
    (`holding`). -/
theorem target_after (s : StateFile) (c : Call) :
    (s.after c).target? = (s.saved? c).elim s.target? holding ∧
      ∀ v, s.saved? c = some v → v.writable = true := by
  rcases c with v | -
  · rcases hs : s.save v with ⟨e | u, s'⟩
    · have hnone : s.saved? (.save v) = none := by simp only [saved?, hs]
      rw [hnone]
      refine ⟨?_, fun w hw => by cases hw⟩
      show (s.save v).2.target? = _
      rw [hs]
      exact target_of_save_error hs
    · have hsome : s.saved? (.save v) = some v := by simp only [saved?, hs]
      rw [hsome]
      refine ⟨?_, fun w hw => ?_⟩
      · show (s.save v).2.target? = _
        rw [hs, save_ok hs]
        rfl
      · cases hw
        exact writable_of_save hs
  · exact ⟨rfl, fun v hv => by cases hv⟩

/-- After any calls the file is as at the start, or it is that of the last save that succeeded
    (`lastSaved?`). -/
theorem target_afterAll (s : StateFile) (calls : List Call) :
    (s.afterAll calls).target? = (s.lastSaved? calls).elim s.target? holding ∧
      ∀ v, s.lastSaved? calls = some v → v.writable = true := by
  induction calls generalizing s with
  | nil => exact ⟨rfl, fun v hv => by cases hv⟩
  | cons c rest ih =>
    obtain ⟨htarget, hwritable⟩ := target_after s c
    obtain ⟨hrest, hrest'⟩ := ih (s.after c)
    show ((s.after c).afterAll rest).target? =
        ((lastSaved? (s.after c) rest).or (s.saved? c)).elim s.target? holding ∧
      ∀ v, (lastSaved? (s.after c) rest).or (s.saved? c) = some v → _
    cases hlast : lastSaved? (s.after c) rest with
    | none =>
      rw [hlast] at hrest
      exact ⟨hrest.trans htarget, hwritable⟩
    | some w =>
      rw [hlast] at hrest
      exact ⟨hrest, fun v hv => hrest' v (hlast.trans hv)⟩

/-- A file with the whole text of data that can be written gives them back to `load`. -/
theorem load_of_holding {s : StateFile} {v : Json} (hk : v.WellKeyed) (hw : v.writable = true)
    (h : s.target? = holding v) : s.load = .ok (some v) := by
  rw [load, h]
  show (decode (encode v)).map some = _
  rw [decode_encode hk hw]
  rfl

/-- **The state file is all or nothing.** After any `calls`, from any `start`: a save that fails
    leaves the file as it stands; one that succeeds leaves the whole text of its data, and no draft;
    loading changes nothing; and the file gives the data of the last save that succeeded
    (`lastSaved?`), or is as it was if there was none.  A save that does not come to its end is no
    exception: after any number `k` of its moves, with the text handed over in any pieces, the file
    is the old one or the new one. -/
theorem all_or_nothing (start : StateFile) (calls : List Call) :
    let s := start.afterAll calls
    (∀ v e, (s.save v).1 = .error e →
        (start.afterAll (calls ++ [.save v])).target? = s.target?) ∧
      (∀ v, (s.save v).1 = .ok () →
        (start.afterAll (calls ++ [.save v])).target? = some (.file v.text.toUTF8) ∧
          (start.afterAll (calls ++ [.save v])).text? = some v.text ∧
          (start.afterAll (calls ++ [.save v])).names = some [fileName]) ∧
      start.afterAll (calls ++ [.load]) = s ∧
      (∀ v, start.lastSaved? calls = some v → v.WellKeyed → s.load = .ok (some v)) ∧
      (start.lastSaved? calls = none → s.target? = start.target? ∧ s.load = start.load) ∧
      ∀ disk v pieces k, disk.view = s → IsHanded v pieces →
        let cut := (runMoves disk ((saveMoves v pieces).take k)).2
        (cut.view.target? = s.target? ∨ cut.view.target? = some (.file (encode v))) ∧
          Prod.map id Disk.view (runMoves disk (saveMoves v pieces)) = s.save v := by
  intro s
  have hlast : ∀ c, start.afterAll (calls ++ [c]) = s.after c := by
    intro c
    rw [afterAll, List.foldl_append]
    rfl
  obtain ⟨htarget, hwritable⟩ := target_afterAll start calls
  refine ⟨?failed, ?succeeded, hlast .load, ?loaded, ?untouched, ?cut⟩
  case failed =>
    intro v e he
    rw [hlast]
    exact target_of_save_error (Prod.ext he rfl : s.save v = (.error e, (s.save v).2))
  case succeeded =>
    intro v hv
    have hafter : start.afterAll (calls ++ [.save v]) = .inFolder (some (.file (encode v))) false := by
      rw [hlast]
      exact save_ok (Prod.ext hv rfl : s.save v = (.ok (), (s.save v).2))
    rw [hafter]
    exact ⟨rfl, fromUTF8?_toUTF8 v.text, rfl⟩
  case loaded =>
    intro v hv hk
    rw [hv] at htarget
    exact load_of_holding hk (hwritable v hv) htarget
  case untouched =>
    intro hnone
    -- nothing was saved, so the file is the one of the start, and only the file is read
    rw [hnone] at htarget
    refine ⟨htarget, ?_⟩
    show (start.afterAll calls).load = start.load
    rw [load, load, htarget]
    rfl
  case cut =>
    intro disk v pieces k hdisk hpieces
    rw [← hdisk]
    exact ⟨target_of_cut_save disk hpieces k, runMoves_saveMoves disk hpieces⟩

end PrinterConsole.StateFile
