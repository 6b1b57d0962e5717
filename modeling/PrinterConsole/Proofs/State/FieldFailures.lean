/-
  What a field that cannot be used does to a submission.

  Such a field is passed over: the value behind it stays, and the rest of the submission is
  applied.  That is so for unknown keywords, malformed numbers, sources that do not exist and
  coordinates that are no numbers.  It is not so for numerals that are too long to be converted: a
  whole number of more than 4300 digits, such a number in a character reference, and a size of a
  million digits.  One of them fails the whole submission (`Submission.IsConvertible`), and the
  printer stays as it was.

  The three forms are taken together here: `Submission.applied_isOk_iff` says when the block of a
  submission comes to its end, and `Submission.makes_of_applied` what it then makes of the
  printer, from the theorems on each form (`Identity.applyForm_spec`,
  `DriverOptions.isEntry_applyMediaForm` and that on the defaults).

  What is applied is kept whatever becomes of the file.  The answer is a success unless the new
  state has a number that cannot be written, which no submission of short texts puts in
  (`Printer.writable_applied`).

  Main statement: `Printer.field_failures_contained_iff`.
-/
import PrinterConsole.Proofs.Control.Picks
import PrinterConsole.Proofs.State.Writable

namespace PrinterConsole

open PrinterConsole.Number

/-! ## What submissions make of a printer

  For each of the three forms, what an accepted one makes of the printer (`Makes`), and when it is
  accepted (`IsConvertible`); neither looks at the file. -/

namespace DriverOptions

/-- The entry `m` of a source whose size field has the text `size`: an empty entry with what the
    fields of its group give.  A field that cannot be used gives nothing. -/
structure IsEntry (f : Form) (o : DriverOptions) (i : Nat) (source : Json) (size : String)
    (m : LoadedMedia) : Prop where
  size : (m.sizeName, m.width, m.length) =
    ((submittedSize f i source size).map fun s => (Json.string s.1, s.2)).getD
      (LoadedMedia.empty.sizeName, LoadedMedia.empty.width, LoadedMedia.empty.length)
  leftOffset : m.leftOffset = (((f.value? (readyField i "left-offset")).bind
    (Form.measurement offsetScale)).map (·.2)).getD LoadedMedia.empty.leftOffset
  topOffset : m.topOffset = (((f.value? (readyField i "top-offset")).bind
    (Form.measurement offsetScale)).map (·.2)).getD LoadedMedia.empty.topOffset
  tracking : m.tracking = ((f.value? (readyField i "tracking")).bind Vocabulary.ofKeyword?).or
    LoadedMedia.empty.tracking
  type : m.type = ((f.value? (readyField i "type")).map Json.string).getD LoadedMedia.empty.type
  source : m.source = source
  vertical : m.bottomMargin = m.topMargin ∧
    m.topMargin = if f.has (readyField i "borderless") then 0 else o.bottomTop
  horizontal : m.leftMargin = m.rightMargin ∧
    m.rightMargin = if f.has (readyField i "borderless") then 0 else o.leftRight

/-- **The entries after a submission of the media form**, each as its group gives it (`IsEntry`). -/
theorem isEntry_applyMediaForm {f : Form} {o : DriverOptions} {i : Nat} {source : Json}
    {size : String} (hsource : o.sources[i]? = some source) (hmanual : isManual source = false)
    (hsize : f.value? (readyField i "size") = some size) :
    ∃ m, (applyMediaForm f o).1.mediaReady[i]? = some m ∧ IsEntry f o i source size m := by
  rw [getElem?_applyMediaForm, hsource, Option.map_some, hmanual]
  refine ⟨_, rfl, ?_⟩
  simp only [Bool.false_eq_true, if_false, submittedEntry, hsize, Option.map_some, Option.getD_some]
  exact {
    size := by
      cases submittedSize f i source size <;> rfl
    leftOffset := rfl
    topOffset := rfl
    tracking := (Option.or_none).symm
    type := by
      cases f.value? (readyField i "type") <;> rfl
    source := rfl
    vertical := ⟨rfl, rfl⟩
    horizontal := ⟨rfl, rfl⟩ }

end DriverOptions

namespace Submission

/-- Nothing in the `Submission` is too long to be converted, form by form. -/
def IsConvertible (o : DriverOptions) : Submission → Prop
  | .config f => Identity.HasShortReferences f
  | .defaults f => DriverOptions.HasShortNumerals f
  | .media f => DriverOptions.HasSizesInRange f o

/-- **What a submission makes of the printer `p`**: what it asks of parts, defaults and entries is
    put in; where it asks for nothing, or for nothing that can be used, parts and defaults are as
    before, and entries as empty ones.  No conversion of a measurement fails on the way. -/
def Makes (p made : Printer) : Submission → Prop
  | .config f => ∃ i : Identity, made = { p with identity := i } ∧
      ∀ part, i.current part = (Identity.submitted f part).getD (p.identity.current part)
  | .defaults f => ∃ o : DriverOptions, made = { p with driver := o } ∧
      o = p.driver.withDefaults o.current ∧
      ∀ d, o.current d = (DriverOptions.submitted f p.driver d).getD (p.driver.current d)
  | .media f => ∃ o : DriverOptions, made = { p with driver := o } ∧
      (∃ configured, DriverOptions.rebuild f p.driver = .ok (o, configured)) ∧
      o = { p.driver with mediaReady := o.mediaReady } ∧ o.Aligned ∧
      ∀ i source, p.driver.sources[i]? = some source →
        ((isManual source ∨ f.value? (DriverOptions.readyField i "size") = none) →
          o.mediaReady[i]? = some .empty) ∧
        (isManual source = false → ∀ size ∈ f.value? (DriverOptions.readyField i "size"),
          ∃ m, o.mediaReady[i]? = some m ∧ DriverOptions.IsEntry f p.driver i source size m)

/-- **The block of a submission comes to its end exactly if everything can be converted**
    (`IsConvertible`). -/
theorem applied_isOk_iff {p : Printer} (hp : p.driver.Aligned) {s : Submission}
    (hs : s.form.IsText) : (∃ made, s.edit.applied p = .ok made) ↔ s.IsConvertible p.driver := by
  cases s with
  | config f => exact map_isOk_iff.trans (Identity.applyForm_isOk_iff hs p.identity)
  | defaults f => exact map_isOk_iff.trans (DriverOptions.applyDefaultsForm_isOk_iff hp)
  | media f =>
    refine map_isOk_iff.trans ?_
    simp only [DriverOptions.submitMediaForm_eq_ok_iff, exists_and_left, exists_eq, and_true]
    rfl

/-- **A block that comes to its end makes of the printer what was submitted** (`Makes`). -/
theorem makes_of_applied {p made : Printer} (hp : p.driver.Aligned) {s : Submission}
    (h : s.edit.applied p = .ok made) : s.Makes p made := by
  cases s with
  | config f =>
    obtain ⟨⟨i, written⟩, hedit, rfl⟩ := map_eq_ok.1 h
    exact ⟨i, rfl, (Identity.applyForm_spec hedit).1⟩
  | defaults f =>
    obtain ⟨r, hedit, rfl⟩ := map_eq_ok.1 h
    have hshort := (DriverOptions.applyDefaultsForm_isOk_iff hp).1 ⟨r, hedit⟩
    rw [DriverOptions.applyDefaultsForm_eq hshort hp] at hedit
    cases hedit
    refine ⟨DriverOptions.updated f p.driver, rfl, ?_, ?_⟩
    · rw [DriverOptions.updated, DriverOptions.current_withDefaults]
    · intro d
      rw [DriverOptions.updated, DriverOptions.current_withDefaults]
  | media f =>
    obtain ⟨r, hedit, rfl⟩ := map_eq_ok.1 h
    obtain ⟨-, rfl⟩ := DriverOptions.submitMediaForm_eq_ok_iff.1 hedit
    refine ⟨_, rfl, ⟨_, DriverOptions.rebuild_eq f p.driver⟩, rfl,
      DriverOptions.aligned_applyMediaForm f p.driver, ?_⟩
    intro i source hsource
    constructor
    · intro hempty
      rw [DriverOptions.getElem?_applyMediaForm, hsource, Option.map_some]
      rcases hempty with hmanual | hsize
      · simp [hmanual]
      · simp [DriverOptions.submittedEntry, hsize]
    · intro hmanual size hsize
      exact DriverOptions.isEntry_applyMediaForm hsource hmanual hsize

/-- Made options are aligned if the options of `p` were. -/
theorem Makes.aligned {p made : Printer} (hp : p.driver.Aligned) {s : Submission}
    (h : s.Makes p made) : made.driver.Aligned := by
  cases s with
  | config f =>
    obtain ⟨i, rfl, -⟩ := h
    exact hp
  | defaults f =>
    obtain ⟨o, rfl, ho, -⟩ := h
    show o.Aligned
    rw [ho]
    exact DriverOptions.aligned_withDefaults hp _
  | media f =>
    obtain ⟨o, rfl, -, -, ho, -⟩ := h
    exact ho

theorem Makes.file_eq {p made : Printer} {s : Submission} (h : s.Makes p made) :
    made.file = p.file := by
  cases s with
  | config f | defaults f | media f =>
    obtain ⟨_, rfl, -⟩ := h
    rfl

/-- **Short texts can be converted**: every text of the form is shorter than the longest numeral
    (`Form.IsShort`). -/
theorem isConvertible_of_isShort {s : Submission} (hs : s.form.IsShort) (o : DriverOptions) :
    s.IsConvertible o := by
  cases s with
  | config f =>
    intro part name _ text htext
    have hlength := Form.IsShort.value? hs htext
    exact Markup.not_isUncleanable (by omega)
  | defaults f =>
    intro d text htext
    have hlength := Form.IsShort.value? hs htext
    exact DriverOptions.short_of_mem_digitRuns (by omega) d
  | media f =>
    intro i source _ _ size hsize
    have hlength := Form.IsShort.value? hs hsize
    have hdigits : maxDigits ≤ MediaSize.productDigits := by decide
    exact MediaSize.overflows_eq_false (hlength.trans hdigits)

end Submission

/-! ## Saving

  Once a submission was accepted it can fail only in saving, and only for a number that cannot be
  written: other failures of a save are passed over. -/

namespace StateFile

variable {file : StateFile} {v : Json}

/-- A folder in the file's place is found out last, when the draft is to take that place. -/
theorem save_of_folder (hw : v.writable = true) (hb : file ≠ .blocked)
    (ht : file.target? = some .folder) : file.save v =
      (.error (failure "a folder stands in the file's place"), .inFolder (some .folder) true) := by
  unfold save
  rw [hw, ht]
  cases file with
  | blocked => exact absurd rfl hb
  | absent | inFolder => rfl

/-- A number that cannot be written stops a save in its draft. -/
theorem save_of_not_writable (hw : ¬ v.writable = true) (hb : file ≠ .blocked) :
    file.save v = (.error .unwritableNumber, .inFolder file.target? true) := by
  rw [Bool.not_eq_true] at hw
  unfold save
  rw [hw]
  cases file with
  | blocked => exact absurd rfl hb
  | absent | inFolder => rfl

end StateFile

namespace Printer

/-- **A save is answered by a success** if there is no file, if the folder cannot be made, or if the
    printer can be written (`writable`), whatever else stands in the way. -/
theorem save_eq_ok_iff (p : Printer) : p.save.1 = .ok () ↔
    p.file = none ∨ p.file = some .blocked ∨ p.toJson.writable = true := by
  cases hfile : p.file with
  | none => exact iff_of_true (by rw [save, hfile]) (.inl rfl)
  | some file =>
    by_cases hblocked : file = .blocked
    · subst hblocked
      refine iff_of_true ?_ (.inr (.inl rfl))
      rw [save, hfile]
      rfl
    · -- a folder in the way fails as quietly as a saved state succeeds
      have hiff : p.save.1 = .ok () ↔ p.toJson.writable = true := by
        by_cases hw : p.toJson.writable = true
        · refine iff_of_true ?_ hw
          by_cases hfolder : file.target? = some .folder
          · rw [save, hfile]
            simp only [StateFile.save_of_folder hw hblocked hfolder]
            rfl
          · rw [save, hfile]
            simp only [StateFile.save_of_writable hw hblocked hfolder]
        · refine iff_of_false ?_ hw
          rw [save, hfile]
          simp only [StateFile.save_of_not_writable hw hblocked]
          intro h
          cases h
      rw [hiff]
      simp [hblocked]

/-- A submission whose block comes to its end saves what it `made`. -/
theorem submit_of_applied {p made : Printer} (hp : p.driver.Aligned) {s : Submission}
    (h : s.edit.applied p = .ok made) : p.submit s = made.save := by
  have haligned := (Submission.makes_of_applied hp h).aligned hp
  rw [submit_eq_perform]
  exact (perform_of_ok h).1 ((Edit.allows_iff hp h).2 haligned)

/-- **Fields that cannot be used are contained, numerals that are too long are not.** Of a printer
    with aligned options, and of a submission in which every field has a text:

    * The block comes to its end exactly if nothing is too long to be converted
    (`Submission.IsConvertible`), and otherwise gives up and leaves the printer as it was, its file
    included.

    * A block that comes to its end leaves what is behind a field that cannot be used as it was, and
    puts in the rest (`Submission.Makes`).  All of that is kept, whatever becomes of the file.

    * The answer is a success unless the new state has a number that cannot be written.

    * From a printer that can be written, a submission of short texts is always answered by a
    success. -/
theorem field_failures_contained_iff {p : Printer} (hp : p.driver.Aligned) {s : Submission}
    (hs : s.form.IsText) :
    ((∃ made, s.edit.applied p = .ok made) ↔ s.IsConvertible p.driver) ∧
    (¬ s.IsConvertible p.driver → ∃ why, p.submit s = (.error why, p)) ∧
    (∀ made, s.edit.applied p = .ok made →
      s.Makes p made ∧
      (∃ file, (p.submit s).2 = { made with file := file }) ∧
      ((p.submit s).1 = .ok () ↔
        p.file = none ∨ p.file = some .blocked ∨ made.toJson.writable = true)) ∧
    (s.form.IsShort → s.IsConvertible p.driver ∧
      (p.toJson.writable = true → (p.submit s).1 = .ok ())) := by
  have hisOk := Submission.applied_isOk_iff hp hs
  refine ⟨hisOk, ?_, ?_, ?_⟩
  · intro hlong
    cases h : s.edit.applied p with
    | ok made => exact absurd (hisOk.1 ⟨made, h⟩) hlong
    | error why =>
      rw [submit_eq_perform]
      exact ⟨why, perform_of_error h⟩
  · intro made h
    have hmakes := Submission.makes_of_applied hp h
    rw [submit_of_applied hp h, ← hmakes.file_eq, save_eq_ok_iff]
    exact ⟨hmakes, save_frame made, Iff.rfl⟩
  · intro hshort
    have hconvertible := Submission.isConvertible_of_isShort hshort p.driver
    refine ⟨hconvertible, ?_⟩
    intro hw
    obtain ⟨made, h⟩ := hisOk.2 hconvertible
    rw [submit_of_applied hp h, save_eq_ok_iff]
    exact .inr (.inr (writable_applied hp hw hshort h))

/-- A darkness that is no number and a quality, submitted to a label printer whose file cannot be
    written. -/
theorem field_failures_contained_iff_no_darkness :
    let p : Printer := { name := "Label Printer", driver := .labelPrinter, file := some .blocked }
    let s : Submission :=
      .defaults ⟨[("print-darkness", some "dark"), ("print-quality", some "draft")]⟩
    p.driver.Aligned ∧ s.form.IsText ∧ (p.submit s).1 = .ok () ∧
      (p.submit s).2.driver.darknessConfigured = p.driver.darknessConfigured ∧
      (p.submit s).2.driver.qualityDefault = 3 := by
  intro p s
  have hp : p.driver.Aligned := DriverOptions.aligned_labelPrinter
  have hs : s.form.IsText := by decide
  obtain ⟨hisOk, -, hkept, -⟩ := field_failures_contained_iff hp hs
  have hconvertible : s.IsConvertible p.driver := fun d => by cases d <;> decide
  obtain ⟨made, h⟩ := hisOk.2 hconvertible
  obtain ⟨⟨o, rfl, -, hdefaults⟩, ⟨file, hfile⟩, hanswer⟩ := hkept made h
  refine ⟨hp, hs, hanswer.2 (.inr (.inl rfl)), ?_, ?_⟩
  · rw [hfile]
    exact hdefaults .darkness
  · rw [hfile]
    exact hdefaults .quality

/-- A number that has more than `maxDigits` digits is not short as a text. -/
theorem exists_long_digitRun {n : Nat} (h : 10 ^ maxDigits ≤ n) :
    ∃ run ∈ (Form.digitRuns (intText n)).take 1, maxDigits < run.length := by
  have htext : (intText n).toList = (intText n).toList ++ [] := (List.append_nil _).symm
  refine ⟨values (Nat.toDigits 10 n), ?_, ?_⟩
  · rw [Form.digitRuns_intText htext noDigit_nil]
    exact List.mem_cons_self
  · rw [length_values (ascii_toDigits _)]
    exact (Nat.pow_lt_pow_iff_right (by decide)).1 (lt_of_le_of_lt h (lt_pow_length_toDigits n))

/-- The least number that has more than `maxDigits` digits. -/
def longNumeral : String := intText (Nat.pow 10 maxDigits : Nat)

/-- Not every submission of texts is applied: a darkness may have too many digits. -/
theorem not_forall_field_failures_contained :
    ¬ ∀ (p : Printer) (s : Submission), p.driver.Aligned → s.form.IsText →
      (∃ made, s.edit.applied p = .ok made) ∧ (p.submit s).1 = .ok () := by
  intro hall
  let s : Submission :=
    .defaults ⟨[("print-darkness", some longNumeral), ("print-quality", some "draft")]⟩
  have hp : DriverOptions.labelPrinter.Aligned := DriverOptions.aligned_labelPrinter
  have hs : s.form.IsText := by
    intro x hx
    rcases List.mem_cons.1 hx with rfl | hx
    · rfl
    · rw [List.mem_singleton.1 hx]
      rfl
  obtain ⟨happlied, -⟩ := hall { name := "Label Printer", driver := .labelPrinter } s hp hs
  have hshort : DriverOptions.HasShortNumerals s.form :=
    (Submission.applied_isOk_iff hp hs).1 happlied
  have hlarge : 10 ^ maxDigits ≤ Nat.pow 10 maxDigits := by rw [Nat.pow_eq]
  obtain ⟨run, hrun, hlong⟩ := exists_long_digitRun hlarge
  exact Nat.not_le_of_lt hlong (hshort .darkness longNumeral rfl run hrun)

end Printer

end PrinterConsole
