/-
  Edits are whole or not at all.

  An edit is a block of its own: it works on a copy and comes to its end or gives up.  What it
  makes of the printer (`Printer.Edit.applied`) is kept if the ready media still belong to the
  sources one to one (`Printer.Edit.Allows`), and only then is it saved.  So there are three ways
  out: the block gave up, the block broke the alignment, or its copy is kept.  The first two leave
  the printer as it was, file included; the third replaces the copied part and leaves the rest,
  and a file that cannot be written does not change that.

  The alignment is an invariant of all runs: options are made aligned
  (`DriverOptions.IsMade.aligned`), and every edit keeps them so (`Printer.aligned_perform`),
  since it saves only what is aligned.

  Main statements: saving leaves everything but the file (`Printer.save_frame`), the ways out of
  an edit (`Printer.perform_of_error`, `Printer.perform_of_ok`), and that all runs of edits keep
  the ready media aligned and each edit whole or undone (`Printer.edits_whole_or_undone`).
-/
import PrinterConsole.Console
import PrinterConsole.Proofs.Fault
import PrinterConsole.Proofs.State.Codec

namespace PrinterConsole

/-! ## Ready media as options are made

  The options that an edit leaves have one entry for each source, filled up or cut, as `align` makes
  them. -/

namespace DriverOptions

/-- The ready media of the options `o` are `given`, fitted to the sources: one entry for each
    source, those that were given first, and empty ones beyond them. -/
structure FittedFrom (o : DriverOptions) (given : List LoadedMedia) : Prop where
  aligned : o.Aligned
  kept : ∀ i, i < given.length → i < o.sources.length → o.mediaReady[i]? = given[i]?
  filled : ∀ i, given.length ≤ i → i < o.sources.length → o.mediaReady[i]? = some .empty

/-- What `fitted` gives is fitted in that sense. -/
theorem fittedFrom_of_eq {given : List LoadedMedia} {o : DriverOptions}
    (h : o.mediaReady = fitted o.sources.length given) : o.FittedFrom given where
  aligned := by rw [Aligned, h, length_fitted]
  kept := by
    intro i hi hs
    have htake : i < (given.take o.sources.length).length := by
      rw [List.length_take]
      omega
    rw [h, fitted, List.getElem?_append_left htake, List.getElem?_take_of_lt hs]
  filled := by
    intro i hi hs
    have htake : (given.take o.sources.length).length = given.length := by
      rw [List.length_take]
      omega
    rw [h, fitted, List.getElem?_append_right (by omega), htake, List.getElem?_replicate,
      if_pos (by omega)]

/-- Options as they are made: from parts of any lengths (`align`), or from a value (`ofJson`). -/
def IsMade (o : DriverOptions) : Prop :=
  (∃ given : DriverOptions, o = given.align) ∨ ∃ v : Json, ofJson v = .ok o

theorem IsMade.aligned {o : DriverOptions} (h : o.IsMade) : o.Aligned := by
  rcases h with ⟨given, rfl⟩ | ⟨v, hv⟩
  · exact aligned_align given
  · exact (storable_ofJson hv).aligned

end DriverOptions

namespace Printer

/-! ## What saving and editing leave alone

  A save touches the file and nothing else; an edit touches the part that it is about. -/

/-- Saving changes nothing of the printer but the `file`. -/
theorem save_frame (p : Printer) : ∃ file, p.save.2 = { p with file := file } := by
  unfold save
  split
  · rename_i hf
    exact ⟨none, by rw [← hf]⟩
  · split <;> exact ⟨_, rfl⟩

/-- What an edit tells besides its success does not matter to a submission (`Console.outcome`). -/
theorem outcome_map_const {β : Type} (b : β) (saved : Except Fault Unit × Printer) :
    Console.outcome (saved.1.map fun _ => b, saved.2) = saved := by
  obtain ⟨r, after⟩ := saved
  cases r <;> rfl

/-- Edited driver options are saved, or nothing is changed if they are not `Aligned`. -/
theorem outcome_editDriver_of_ok {β : Type} {p : Printer}
    {edit : DriverOptions → Except Fault (DriverOptions × β)} {o : DriverOptions} {b : β}
    (h : edit p.driver = .ok (o, b)) :
    Console.outcome (p.editDriver edit) =
      if o.Aligned then { p with driver := o }.save
      else (.error (.misaligned o.mediaReady.length o.sources.length), p) := by
  rw [editDriver, h]
  by_cases ho : o.Aligned
  · simp only [if_pos ho]
    exact outcome_map_const b _
  · simp only [if_neg ho]
    rfl

theorem outcome_editIdentity_of_ok {β : Type} {p : Printer}
    {edit : Identity → Except Fault (Identity × β)} {i : Identity} {b : β}
    (h : edit p.identity = .ok (i, b)) :
    Console.outcome (p.editIdentity edit) = { p with identity := i }.save := by
  rw [editIdentity, h]
  exact outcome_map_const b _

/-! ## Edits as data

  The three methods that edit a printer, with what they are given, so that a run of edits is a
  list. -/

/-- An edit of a printer: a block that works on a copy, comes to its end or gives up, and may tell
    something. -/
inductive Edit : Type 1 where
  | driver {β : Type} (edit : DriverOptions → Except Fault (DriverOptions × β))
  | identity {β : Type} (edit : Identity → Except Fault (Identity × β))
  | readyMedia (media : List LoadedMedia)

/-- Edits the printer `p`, and drops what the edit tells besides its success. -/
def perform (p : Printer) : Edit → Except Fault Unit × Printer
  | .driver edit => Console.outcome (p.editDriver edit)
  | .identity edit => Console.outcome (p.editIdentity edit)
  | .readyMedia media => p.setReadyMedia media

/-- The printer after the `edits`, one after another, whatever becomes of each. -/
def performAll (p : Printer) (edits : List Edit) : Printer :=
  edits.foldl (fun p e => (p.perform e).2) p

/-- The printer `p` with the copy that a block makes in the place of what was copied, if the block
    comes to its end. -/
def Edit.applied (p : Printer) : Edit → Except Fault Printer
  | .driver edit => (edit p.driver).map fun r => { p with driver := r.1 }
  | .identity edit => (edit p.identity).map fun r => { p with identity := r.1 }
  | .readyMedia media => .ok { p with driver := { p.driver with mediaReady := media } }

/-! ## The three ways out of an edit

  An edit fails and changes nothing; it leaves options that do not fit and is turned away; or it is
  committed and saved. -/

/-- **A block that gives up changes nothing**: the fault `why` is the answer, and the printer is
    `p`. -/
theorem perform_of_error {p : Printer} {e : Edit} {why : Fault} (h : e.applied p = .error why) :
    p.perform e = (.error why, p) := by
  cases e with
  | driver edit =>
    show Console.outcome (p.editDriver edit) = _
    rw [editDriver_of_error (map_eq_error.1 h)]
    rfl
  | identity edit =>
    have hedit : edit p.identity = .error why := map_eq_error.1 h
    show Console.outcome (p.editIdentity edit) = _
    rw [editIdentity, hedit]
    rfl
  | readyMedia media => cases h

/-- Replacing the ready media by `setReadyMedia` is an edit of the driver options. -/
theorem setReadyMedia_eq (p : Printer) (media : List LoadedMedia) :
    p.setReadyMedia media =
      Console.outcome
        (p.editDriver fun o => .ok ({ o with mediaReady := media }, ())) := by
  rw [setReadyMedia]
  generalize p.editDriver _ = edited
  obtain ⟨answer, after⟩ := edited
  cases answer <;> rfl

/-- What a block `made` may be kept: ready media are looked at when driver options are edited. -/
def Edit.Allows (made : Printer) : Edit → Prop
  | .driver _ | .readyMedia _ => made.driver.Aligned
  | .identity _ => True

/-- **What a block makes is saved if it may be kept**, and dropped if it may not (`Edit.Allows`). -/
theorem perform_of_ok {p made : Printer} {e : Edit} (h : e.applied p = .ok made) :
    (e.Allows made → p.perform e = made.save) ∧
    (¬ e.Allows made → p.perform e =
      (.error (.misaligned made.driver.mediaReady.length made.driver.sources.length), p)) := by
  cases e with
  | driver edit =>
    obtain ⟨r, hedit, rfl⟩ := map_eq_ok.1 h
    have hperform := outcome_editDriver_of_ok hedit
    exact ⟨fun ha => hperform.trans (if_pos ha), fun ha => hperform.trans (if_neg ha)⟩
  | identity edit =>
    obtain ⟨r, hedit, rfl⟩ := map_eq_ok.1 h
    exact ⟨fun _ => outcome_editIdentity_of_ok hedit, fun ha => absurd trivial ha⟩
  | readyMedia media =>
    cases h
    have hperform := (setReadyMedia_eq p media).trans (outcome_editDriver_of_ok rfl)
    exact ⟨fun ha => hperform.trans (if_pos ha), fun ha => hperform.trans (if_neg ha)⟩

/-- With aligned options to begin with, what may be kept is what is `Aligned`. -/
theorem Edit.allows_iff {p made : Printer} {e : Edit} (hp : p.driver.Aligned)
    (h : e.applied p = .ok made) : e.Allows made ↔ made.driver.Aligned := by
  cases e with
  | driver edit => exact Iff.rfl
  | identity edit =>
    obtain ⟨r, -, rfl⟩ := map_eq_ok.1 h
    exact ⟨fun _ => hp, fun _ => trivial⟩
  | readyMedia media => exact Iff.rfl

/-- **An edit saves what its block `made`, or it changes nothing.** -/
theorem perform_cases (p : Printer) (e : Edit) :
    (∃ made, e.applied p = .ok made ∧ e.Allows made ∧ p.perform e = made.save) ∨
      ∃ why, p.perform e = (.error why, p) := by
  cases h : e.applied p with
  | error why => exact .inr ⟨why, perform_of_error h⟩
  | ok made =>
    by_cases ha : e.Allows made
    · exact .inl ⟨made, rfl, ha, (perform_of_ok h).1 ha⟩
    · exact .inr ⟨_, (perform_of_ok h).2 ha⟩

/-! ## Runs of edits

  A printer whose options are `Aligned` stays so, whatever is edited; the main statement says of
  each step of a run what came of it. -/

/-- The only failure that `save` tells is that of a number that cannot be written: a file that
    cannot be written is none. -/
theorem save_answer (p : Printer) : p.save.1 = .ok () ∨ p.save.1 = .error .unwritableNumber := by
  unfold save
  split
  · exact .inl rfl
  · rename_i file _
    split
    · exact .inl rfl
    · rename_i e after hsave
      unfold StateFile.save at hsave
      split at hsave
      · cases hsave
        exact .inl rfl
      · split at hsave
        · cases hsave
          exact .inr rfl
        · split at hsave
          · cases hsave
            exact .inl rfl
          · cases hsave

/-- **An edit keeps the ready media `Aligned`.** -/
theorem aligned_perform {p : Printer} (hp : p.driver.Aligned) (e : Edit) :
    (p.perform e).2.driver.Aligned := by
  rcases perform_cases p e with ⟨made, h, ha, hsave⟩ | ⟨why, hsame⟩
  · rw [hsave, driver_save]
    exact (Edit.allows_iff hp h).1 ha
  · rw [hsame]
    exact hp

/-- **Edits keep the ready media aligned**, by induction on the `edits`. -/
theorem aligned_performAll {p : Printer} (hp : p.driver.Aligned) (edits : List Edit) :
    (p.performAll edits).driver.Aligned := by
  induction edits generalizing p with
  | nil => exact hp
  | cons e rest ih => exact ih (aligned_perform hp e)

/-- **Edits are whole or not at all, and keep the ready media aligned.**  Options are made with
    their ready media fitted to their sources, whether from parts or from a value.  From a printer
    with such options on, after any edits: -/
theorem edits_whole_or_undone {p : Printer} (hp : p.driver.IsMade) (earlier : List Edit)
    (e : Edit) :
    let q := p.performAll earlier
    -- options are made with as many ready media as sources, those that were given and empty ones
    (∀ parts : DriverOptions, parts.align.FittedFrom parts.mediaReady ∧
      parts.align = { parts with mediaReady := parts.align.mediaReady }) ∧
    (∀ v o, DriverOptions.ofJson v = .ok o → ∃ r items given, v.toRecord = .ok r ∧
      DriverOptions.itemsOr r "sources" [] = .ok o.sources ∧
      DriverOptions.itemsOr r "media_ready" [] = .ok items ∧
      items.mapM LoadedMedia.ofJson = .ok given ∧ o.FittedFrom given) ∧
    -- the stored options are aligned, before and after the edit
    (q.driver.Aligned ∧ (q.perform e).2.driver.Aligned) ∧
    -- a block that gives up changes nothing, and neither does one that breaks the alignment
    (∀ why, e.applied q = .error why → q.perform e = (.error why, q)) ∧
    (∀ made, e.applied q = .ok made → ¬ made.driver.Aligned → q.perform e =
      (.error (.misaligned made.driver.mediaReady.length made.driver.sources.length), q)) ∧
    -- any other is kept and then saved; it is kept whatever becomes of the file
    (∀ made, e.applied q = .ok made → made.driver.Aligned →
      q.perform e = made.save ∧
      (∃ file, (q.perform e).2 = { made with file := file }) ∧
      ((q.perform e).1 = .ok () ∨ (q.perform e).1 = .error .unwritableNumber)) := by
  intro q
  have hq : q.driver.Aligned := aligned_performAll hp.aligned earlier
  refine ⟨?_, ?_, ⟨hq, aligned_perform hq e⟩, ?_, ?_, ?_⟩
  · intro parts
    exact ⟨DriverOptions.fittedFrom_of_eq rfl, rfl⟩
  · intro v o hv
    obtain ⟨r, hr, hread⟩ := DriverOptions.readFrom_of_ofJson hv
    obtain ⟨items, given, hitems, hgiven, hready⟩ := hread.mediaReady
    exact ⟨r, items, given, hr, hread.sources, hitems, hgiven,
      DriverOptions.fittedFrom_of_eq hready⟩
  · intro why h
    exact perform_of_error h
  · intro made h hmade
    exact (perform_of_ok h).2 fun ha => hmade ((Edit.allows_iff hq h).1 ha)
  · intro made h hmade
    have hsave : q.perform e = made.save := (perform_of_ok h).1 ((Edit.allows_iff hq h).2 hmade)
    rw [hsave]
    exact ⟨rfl, save_frame made, save_answer made⟩

/-- A label printer whose file cannot be written: taking all ready media away is refused, and a
    darkness that is set afterwards is kept. -/
theorem edits_whole_or_undone_blocked_file :
    let p : Printer := { name := "Label Printer", driver := .labelPrinter, file := some .blocked }
    let unloaded : Edit := .readyMedia []
    let darker : Edit := .driver fun o => .ok ({ o with darknessConfigured := 50 }, ())
    p.driver.IsMade ∧ p.perform unloaded = (.error (.misaligned 0 3), p) ∧
      ∃ file, ((p.performAll [unloaded]).perform darker).2 =
        { p with driver := { p.driver with darknessConfigured := 50 }, file := file } := by
  intro p unloaded darker
  have hmade : p.driver.IsMade :=
    .inl ⟨.labelPrinter, (DriverOptions.align_eq_self DriverOptions.aligned_labelPrinter).symm⟩
  obtain ⟨-, -, -, -, hrefused, -⟩ := edits_whole_or_undone hmade [] unloaded
  have hunloaded : p.perform unloaded = (.error (.misaligned 0 3), p) :=
    hrefused _ rfl (by decide)
  have hsame : p.performAll [unloaded] = p := congrArg Prod.snd hunloaded
  obtain ⟨-, -, -, -, -, hkept⟩ := edits_whole_or_undone hmade [unloaded] darker
  rw [hsame] at hkept ⊢
  obtain ⟨-, hfile, -⟩ := hkept _ rfl (by decide)
  exact ⟨hmade, hunloaded, hfile⟩

end Printer

end PrinterConsole
