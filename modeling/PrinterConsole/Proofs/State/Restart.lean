/-
  A restart keeps the saved state.

  Three forms change what is saved: the configuration, the print defaults and the media.  Whatever
  they are filled with, they lead from a state that can be saved and read back to such a state
  (`Restorable`), so nothing that is reached is lost to the defaults of the reader.

  A printer starts with the options that it is given or on a file (`Printer.IsStarted`); either
  way it is `Restorable`, on a file whatever that holds (`Printer.Restorable.restore`).  From
  there the induction on the submissions needs no more than that each of them saves a restorable
  printer or changes nothing (`Printer.submit_cases`).

  Main statements: what is saved is what is loaded (`StateFile.load_of_save`), submissions and
  restarts keep a printer restorable (`Printer.Restorable.submitAll`,
  `Printer.Restorable.restore`), and after a submission that was saved, a printer that starts on
  the file has the driver options and the identity of the running one
  (`Printer.restore_of_saved`).
-/
import PrinterConsole.Proofs.Driver.MediaBounds
import PrinterConsole.Proofs.Json.Loaded
import PrinterConsole.Proofs.Json.RoundTrip
import PrinterConsole.Proofs.State.Edits
import PrinterConsole.Proofs.State.Forms

namespace PrinterConsole

/-! ## The state file

  A value is saved as text in UTF-8, and loaded by reading it: what is saved can be loaded, if no
  key comes twice. -/

namespace StateFile

theorem fromUTF8?_toUTF8 (text : String) : String.fromUTF8? text.toUTF8 = some text := by
  unfold String.fromUTF8? String.toUTF8
  rw [dif_pos text.isValidUTF8]
  rfl

/-- A save that succeeds wrote its value, so the value can be written. -/
theorem writable_of_save {file file' : StateFile} {v : Json} (h : file.save v = (.ok (), file')) :
    v.writable = true := by
  by_contra hw
  unfold save at h
  rw [Bool.not_eq_true] at hw
  split at h
  · cases h
  · rw [hw] at h
    cases h

/-- A value that can be written is saved, unless something else stands in the place of the file
    (`target?`) or its folder. -/
theorem save_of_writable {file : StateFile} {v : Json} (hw : v.writable = true)
    (hb : file ≠ .blocked) (ht : file.target? ≠ some .folder) :
    file.save v = (.ok (), .inFolder (some (.file (encode v))) false) := by
  unfold save
  rw [hw]
  split
  · exact absurd rfl hb
  · split
    · rename_i hn
      cases hn
    · split
      · rename_i hf
        exact absurd hf ht
      · rfl

theorem decode_encode {v : Json} (hk : v.WellKeyed) (hw : v.writable = true) :
    decode (encode v) = .ok v := by
  unfold decode encode
  rw [fromUTF8?_toUTF8]
  simp only [Json.read_text hk hw]

/-- **What was saved by `save` is loaded by `load`.** -/
theorem load_of_save {file file' : StateFile} {v : Json} (hk : v.WellKeyed)
    (h : file.save v = (.ok (), file')) : file'.load = .ok (some v) := by
  have hw := writable_of_save h
  rw [save_ok h]
  show (decode (encode v)).map some = _
  rw [decode_encode hk hw]
  rfl

/-- **What is loaded is `WellKeyed`**, whatever the file holds. -/
theorem wellKeyed_of_load {file : StateFile} {v : Json} (h : file.load = .ok (some v)) :
    v.WellKeyed := by
  unfold load at h
  split at h
  · cases h
  · cases h
  · rename_i bytes _
    unfold decode at h
    split at h
    · cases h
    · split at h
      · rename_i hread
        cases h
        exact Json.wellKeyed_of_read hread
      · cases h
      · cases h

end StateFile

/-! ## Submissions

  A submission edits one part of the printer and saves the rest along with it. -/

/-- A submission of one of the forms that change what is saved: `config`, `defaults` and `media`. -/
inductive Submission where
  | config (f : Form)
  | defaults (f : Form)
  | media (f : Form)

/-- The `Printer.Edit` that a submission makes. -/
def Submission.edit : Submission → Printer.Edit
  | .config f => .identity (Identity.applyForm f)
  | .defaults f => .driver (DriverOptions.applyDefaultsForm f)
  | .media f => .driver (DriverOptions.submitMediaForm f)

namespace Printer

/-- Submits a form to the printer `p`. -/
def submit (p : Printer) : Submission → Except Fault Unit × Printer
  | .config f => Console.outcome (p.editIdentity (Identity.applyForm f))
  | .defaults f => Console.outcome (p.editDriver (DriverOptions.applyDefaultsForm f))
  | .media f => Console.outcome (p.editDriver (DriverOptions.submitMediaForm f))

/-- A submission is an edit: `submit` is `perform` of it. -/
theorem submit_eq_perform (p : Printer) (s : Submission) : p.submit s = p.perform s.edit := by
  cases s <;> rfl

/-- The printer after the `submissions`, one after another, whatever becomes of each. -/
def submitAll (p : Printer) (submissions : List Submission) : Printer :=
  submissions.foldl (fun p s => (p.submit s).2) p

/-- The submission `s` is accepted, and the file takes the state that it leads to. -/
def Saved (p : Printer) (s : Submission) : Prop :=
  (p.submit s).1 = .ok () ∧
    ∃ file, p.file = some file ∧ (file.save (p.submit s).2.toJson).1 = .ok ()

theorem submitAll_append_singleton (p : Printer) (before : List Submission) (s : Submission) :
    p.submitAll (before ++ [s]) = ((p.submitAll before).submit s).2 := by
  rw [submitAll, List.foldl_append]
  rfl

/-! ## Restorable printers

  `Restorable` gathers what a printer needs for its saved value to be read back as it was: options
  that are made of members, and no keys that come twice. -/

/-- Nothing of the printer `p` is lost when it is saved and read back. -/
structure Restorable (p : Printer) : Prop where
  storable : p.driver.Storable
  driver : p.driver.Keyed
  identity : p.identity.Keyed

theorem nodup_record (p : Printer) : (p.record.map (·.1)).Nodup := by
  show (["name", "identity", "driver"] : List String).Nodup
  decide

theorem Restorable.wellKeyed_toJson {p : Printer} (h : p.Restorable) : p.toJson.WellKeyed := by
  refine (Json.wellKeyed_object _).2 ⟨nodup_record p, ?_⟩
  simp only [record, List.forall_mem_cons, List.not_mem_nil, false_imp_iff, implies_true, and_true]
  exact ⟨trivial, Identity.wellKeyed_toJson h.identity, DriverOptions.wellKeyed_toJson h.driver⟩

theorem Restorable.save {p : Printer} (h : p.Restorable) : p.save.2.Restorable := by
  obtain ⟨file, hf⟩ := save_frame p
  rw [hf]
  exact ⟨h.storable, h.driver, h.identity⟩

/-! ## What a submission does

  A submission that is refused leaves the printer as it is; any other edits it and saves it, and the
  edit keeps it `Restorable`. -/

/-- What a submission makes of a restorable printer, before it is saved, is `Restorable`. -/
theorem Restorable.applied {p made : Printer} (h : p.Restorable) {s : Submission}
    (hs : s.edit.applied p = .ok made) : made.Restorable ∧ made.file = p.file := by
  cases s with
  | config f =>
    obtain ⟨⟨i, written⟩, hedit, rfl⟩ := map_eq_ok.1 hs
    exact ⟨⟨h.storable, h.driver, Identity.keyed_applyForm hedit h.identity⟩, rfl⟩
  | defaults f =>
    obtain ⟨⟨o, written⟩, hedit, rfl⟩ := map_eq_ok.1 hs
    have ho : o.Storable := DriverOptions.storable_applyDefaultsForm hedit h.storable
    have hk : o.Keyed := DriverOptions.keyed_applyDefaultsForm hedit h.driver
    exact ⟨⟨ho, hk, h.identity⟩, rfl⟩
  | media f =>
    obtain ⟨r, hedit, rfl⟩ := map_eq_ok.1 hs
    obtain ⟨-, rfl⟩ := DriverOptions.submitMediaForm_eq_ok_iff.1 hedit
    have ho := DriverOptions.storable_applyMediaForm f h.storable
    have hk := DriverOptions.keyed_applyMediaForm f h.driver
    exact ⟨⟨ho, hk, h.identity⟩, rfl⟩

/-- A submission saves a `Restorable` printer, or it changes nothing. -/
theorem submit_cases {p : Printer} (h : p.Restorable) (s : Submission) :
    (∃ q : Printer, q.Restorable ∧ q.file = p.file ∧ p.submit s = q.save) ∨
      ∃ e, p.submit s = (.error e, p) := by
  rw [submit_eq_perform]
  rcases perform_cases p s.edit with ⟨made, hs, -, hsave⟩ | hsame
  · obtain ⟨hmade, hfile⟩ := h.applied hs
    exact .inl ⟨made, hmade, hfile, hsave⟩
  · exact .inr hsame

/-- **A submission keeps a printer `Restorable`.** -/
theorem Restorable.submit {p : Printer} (h : p.Restorable) (s : Submission) :
    (p.submit s).2.Restorable := by
  rcases submit_cases h s with ⟨q, hq, -, hs⟩ | ⟨e, hs⟩
  · rw [hs]
    exact hq.save
  · rw [hs]
    exact h

/-- **Submissions keep a printer restorable**, by induction on the `submissions`. -/
theorem Restorable.submitAll {p : Printer} (h : p.Restorable) (submissions : List Submission) :
    (p.submitAll submissions).Restorable := by
  induction submissions generalizing p with
  | nil => exact h
  | cons s rest ih => exact ih (h.submit s)

/-! ## Restoring

  Restoring is the reverse of a save: a printer that starts on a file takes what was saved, and is
  `Restorable` whatever the file holds. -/

/-- **A printer that starts on a file that was just saved has what was saved**, whatever it is
    `fresh`. -/
theorem restore_of_save {p : Printer} (h : p.Restorable) {file file' : StateFile}
    (hs : file.save p.toJson = (.ok (), file')) (fresh : Printer) :
    fresh.restore file' =
      .ok { fresh with driver := p.driver, identity := p.identity, file := some file' } := by
  have hat : ∀ (i : Nat) {key : String} {v : Json}, p.record[i]? = some (key, v) →
      ∀ absent, Json.memberD p.record key absent = v :=
    fun _ _ _ h => Json.memberD_of_getElem? (nodup_record p) h
  have hsaved : savedValue file' = .ok (some p.toJson) := by
    rw [savedValue, StateFile.load_of_save h.wellKeyed_toJson hs]
  rw [restore, hsaved, ok_bind]
  -- a record has members, so it counts as saved
  show (do
    let r ← p.toJson.toRecord
    let driver ← DriverOptions.ofJson (Json.memberD r "driver" (.object []))
    let identity ← Identity.ofJson (Json.memberD r "identity" (.object []))
    return { fresh with driver := driver, identity := identity, file := some file' }) = _
  simp only [toJson, Json.toRecord, ok_bind, hat 1 rfl, hat 2 rfl,
    DriverOptions.ofJson_toJson h.storable, Identity.ofJson_toJson]
  rfl

theorem save_of_file {p : Printer} {file file' : StateFile} (hf : p.file = some file)
    (h : file.save p.toJson = (.ok (), file')) :
    p.save = (.ok (), { p with file := some file' }) := by
  rw [save, hf]
  simp only [h]

theorem toJson_save (p : Printer) : p.save.2.toJson = p.toJson := by
  obtain ⟨file, hf⟩ := save_frame p
  rw [hf]
  rfl

/-- After a submission that was `Saved`, the printer's file is the one that took its state. -/
theorem save_of_saved {p : Printer} (h : p.Restorable) {s : Submission} (hs : p.Saved s) :
    ∃ file file' : StateFile, (p.submit s).2.file = some file' ∧
      file.save (p.submit s).2.toJson = (.ok (), file') := by
  obtain ⟨hok, file, hfile, hsaved⟩ := hs
  rcases submit_cases h s with ⟨q, -, hq, hsubmit⟩ | ⟨e, hsubmit⟩
  · -- saving does not change what is saved
    rw [hsubmit, toJson_save] at hsaved ⊢
    obtain ⟨file', hfile'⟩ : ∃ file', file.save q.toJson = (.ok (), file') :=
      ⟨(file.save q.toJson).2, Prod.ext hsaved rfl⟩
    refine ⟨file, file', ?_, hfile'⟩
    rw [save_of_file (hq.trans hfile) hfile']
  · rw [hsubmit] at hok
    cases hok

/-- A value that is read from a file has no key twice, whatever the file says. -/
theorem wellKeyed_of_savedValue {file : StateFile} {v : Json}
    (h : savedValue file = .ok (some v)) : v.WellKeyed := by
  unfold savedValue at h
  split at h
  · rename_i hload
    cases h
    exact StateFile.wellKeyed_of_load hload
  · split at h <;> cases h

/-- **A printer that starts on a `file` is restorable**, whatever the file holds. -/
theorem Restorable.restore {fresh p : Printer} (hfresh : fresh.Restorable) {file : StateFile}
    (h : fresh.restore file = .ok p) : p.Restorable := by
  obtain ⟨saved, hsaved, h⟩ := bind_eq_ok.1 h
  cases hf : saved.filter Json.truthy with
  | none =>
    rw [hf] at h
    cases h
    exact ⟨hfresh.storable, hfresh.driver, hfresh.identity⟩
  | some v =>
    rw [hf] at h
    obtain ⟨rfl, -⟩ := Option.filter_eq_some_iff.1 hf
    obtain ⟨r, hr, h⟩ := bind_eq_ok.1 h
    obtain ⟨driver, hdriver, h⟩ := bind_eq_ok.1 h
    obtain ⟨identity, hidentity, h⟩ := bind_eq_ok.1 h
    cases h
    have hmembers := (wellKeyed_of_savedValue hsaved).toRecord hr
    have hmember : ∀ key, (Json.memberD r key (.object [])).WellKeyed :=
      fun key => .memberD hmembers key (by simp)
    exact ⟨DriverOptions.storable_ofJson hdriver, DriverOptions.keyed_ofJson (hmember _) hdriver,
      Identity.keyed_ofJson (hmember _) hidentity⟩

end Printer

/-! ## Runs

  The options and the identity that a printer starts with are given or come from a file.  Each
  submission keeps it `Restorable`, so the last one that is saved can be restored. -/

/-- Options of a printer that starts: those of the label printer (`labelPrinter`), or what a value
    is read as whose objects have each key once. -/
def DriverOptions.IsGiven (o : DriverOptions) : Prop :=
  o = labelPrinter ∨ ∃ v : Json, v.WellKeyed ∧ ofJson v = .ok o

/-- An identity of a printer that starts: an empty one, one with a name (`ofName`), or what a value
    is read as whose objects have each key once. -/
def Identity.IsGiven (i : Identity) : Prop :=
  i = {} ∨ (∃ name, i = ofName name) ∨ ∃ v : Json, v.WellKeyed ∧ ofJson v = .ok i

theorem DriverOptions.keyed_labelPrinter : labelPrinter.Keyed := by
  rw [keyed_iff]
  simp [labelPrinter, firstRoll, LoadedMedia.keyed_iff, LoadedMedia.empty]

theorem DriverOptions.IsGiven.storable {o : DriverOptions} (h : o.IsGiven) : o.Storable := by
  rcases h with rfl | ⟨v, -, hv⟩
  · exact storable_labelPrinter
  · exact storable_ofJson hv

theorem DriverOptions.IsGiven.keyed {o : DriverOptions} (h : o.IsGiven) : o.Keyed := by
  rcases h with rfl | ⟨v, hk, hv⟩
  · exact keyed_labelPrinter
  · exact keyed_ofJson hk hv

theorem Identity.IsGiven.keyed {i : Identity} (h : i.IsGiven) : i.Keyed := by
  rcases h with rfl | ⟨name, rfl⟩ | ⟨v, hk, hv⟩
  · simp [keyed_iff]
  · simp [keyed_iff, ofName]
  · exact keyed_ofJson hk hv

namespace Printer

/-- A printer that starts: with the options and the identity that it is given, or with what
    `restore` makes of a file, whatever that holds. -/
def IsStarted (p : Printer) : Prop :=
  (p.driver.IsGiven ∧ p.identity.IsGiven) ∨
    ∃ (given : Printer) (file : StateFile),
      given.driver.IsGiven ∧ given.identity.IsGiven ∧ given.restore file = .ok p

/-- How a printer starts does not matter for what it can save and read back (`Restorable`). -/
theorem IsStarted.restorable {p : Printer} (hp : p.IsStarted) : p.Restorable := by
  rcases hp with ⟨hdriver, hidentity⟩ | ⟨given, file, hdriver, hidentity, hrestore⟩
  · exact ⟨hdriver.storable, hdriver.keyed, hidentity.keyed⟩
  · exact Restorable.restore ⟨hdriver.storable, hdriver.keyed, hidentity.keyed⟩ hrestore

/-- **State survives a restart.** Take any printer that `IsStarted`, perhaps by a restart itself.
    After any submissions of which the last was `Saved`, a printer that starts on the file has the
    driver options and the identity of the running one, whatever it would have had without the
    file. -/
theorem restore_of_saved {p : Printer} (hp : p.IsStarted) (before : List Submission)
    (s : Submission) (hs : (p.submitAll before).Saved s) :
    ∃ file, (p.submitAll (before ++ [s])).file = some file ∧ ∀ fresh : Printer,
      fresh.restore file = .ok
        { fresh with
          driver := (p.submitAll (before ++ [s])).driver
          identity := (p.submitAll (before ++ [s])).identity
          file := some file } := by
  have hbefore : (p.submitAll before).Restorable := hp.restorable.submitAll before
  obtain ⟨file, file', hfile, hsave⟩ := save_of_saved hbefore hs
  rw [submitAll_append_singleton]
  exact ⟨file', hfile, restore_of_save (hbefore.submit s) hsave⟩

/-- A label printer with an empty folder for its file. -/
def sampleLabelPrinter : Printer :=
  { name := "Label Printer"
    driver := .labelPrinter
    identity := .ofName "Label Printer"
    file := some (.inFolder none false) }

/-- The location of the printer, submitted on its own. -/
def sampleLocation : Submission := .config ⟨[("location", some "Hall")]⟩

/-- The sample is saved: its values can be written, and nothing stands in the file's place. -/
theorem saved_sampleLocation : sampleLabelPrinter.Saved sampleLocation := by
  let hall : Identity := { Identity.ofName "Label Printer" with location := .string "Hall" }
  have hedit : Identity.applyForm ⟨[("location", some "Hall")]⟩ sampleLabelPrinter.identity =
      .ok (hall, [.location]) := rfl
  have hsubmit : sampleLabelPrinter.submit sampleLocation =
      { sampleLabelPrinter with identity := hall }.save :=
    outcome_editIdentity_of_ok hedit
  have hw : { sampleLabelPrinter with identity := hall }.toJson.writable = true := by
    decide +kernel
  have hfile : (StateFile.inFolder none false).save
      { sampleLabelPrinter with identity := hall }.toJson = (.ok (), _) :=
    StateFile.save_of_writable hw (by simp) (by simp [StateFile.target?])
  refine ⟨?_, .inFolder none false, rfl, ?_⟩
  · rw [hsubmit, save_of_file rfl hfile]
  · rw [hsubmit, toJson_save, hfile]

/-- The sample printer after a submission of its location, restored from its file. -/
theorem restore_of_saved_location :
    sampleLabelPrinter.IsStarted ∧ (sampleLabelPrinter.submitAll []).Saved sampleLocation ∧
      ∃ file, (sampleLabelPrinter.submitAll [sampleLocation]).file = some file ∧
        ∀ fresh : Printer, fresh.restore file = .ok
          { fresh with
            driver := (sampleLabelPrinter.submitAll [sampleLocation]).driver
            identity := (sampleLabelPrinter.submitAll [sampleLocation]).identity
            file := some file } :=
  have hstarted : sampleLabelPrinter.IsStarted := .inl ⟨.inl rfl, .inr (.inl ⟨_, rfl⟩)⟩
  ⟨hstarted, saved_sampleLocation, restore_of_saved hstarted [] sampleLocation saved_sampleLocation⟩

end Printer

end PrinterConsole
