/-
  Picking a source of media on the print defaults page.

  A pick copies the media that are loaded in the source, and the page selects by the name of a
  source in the copy.  So a pick is shown if the entry of each source bears the name of the
  source.  The forms keep this but for entries that are not configured: these are empty and bear
  no name, and a pick of such a source leaves nothing selected.

  `Sourced` is the invariant of a run of submissions: `Sourced.apply` is its step and
  `sourced_afterSubmissions` the run.  It says of each entry that it is empty or bears the name of
  its source, and of the sources that their names differ, so that what is selected can be at most
  one choice.

  What the page offers does not depend on the default media (`sourceChoices_of_ok`), so after a
  pick it offers what it offered before.

  Main statements: what submissions leave (`sourced_afterSubmissions`), and what is selected after
  a pick (`source_pick_selects`).
-/
import PrinterConsole.Proofs.Control.MediaPicks
import PrinterConsole.Proofs.Control.Picks

namespace PrinterConsole.DriverOptions

/-! ## Submissions

  The options that are looked at are those that some submissions make of the label printer's; one
  that fails changes nothing. -/

/-- A submission of the media form or of the print defaults form. -/
inductive Submission where
  | media (f : Form)
  | defaults (f : Form)

/-- The options after a submission; one with a fault changes nothing, as
    `Printer.editDriver_of_error` says of the printer. -/
def Submission.apply (o : DriverOptions) : Submission → DriverOptions
  | .media f =>
    match submitMediaForm f o with
    | .ok (changed, _) => changed
    | .error _ => o
  | .defaults f =>
    match applyDefaultsForm f o with
    | .ok (changed, _) => changed
    | .error _ => o

/-- The options of the label printer after the submissions `ss`. -/
def afterSubmissions (ss : List Submission) : DriverOptions :=
  ss.foldl Submission.apply .labelPrinter

/-! ## Entries and their sources

  Every entry is empty or has the name of the source at its place (`Sourced`).  That is what a
  submission preserves, and what the selection of a source relies on. -/

/-- The sources of `o` have different names, and the entry of a source is empty or bears its
    name. -/
structure Sourced (o : DriverOptions) : Prop where
  aligned : o.Aligned
  named : ∀ source ∈ o.sources, ∃ name, source = .string name ∧ name ≠ ""
  nodup : o.sources.Nodup
  entry : ∀ (k : Nat) (source : Json) (media : LoadedMedia), o.sources[k]? = some source →
    o.mediaReady[k]? = some media → media = .empty ∨ media.source = source

/-- The label printer is `Sourced` from the start: its first roll bears its name, and the other
    entries are empty. -/
theorem sourced_labelPrinter : labelPrinter.Sourced where
  aligned := aligned_labelPrinter
  named := by
    simp only [labelPrinter, List.forall_mem_cons, List.not_mem_nil, false_imp_iff, implies_true,
      and_true]
    exact ⟨⟨_, rfl, by decide⟩, ⟨_, rfl, by decide⟩, ⟨_, rfl, by decide⟩⟩
  nodup := by
    simp [labelPrinter]
  entry := by
    rintro (_ | _ | _ | k) source media hsource hmedia
    · cases hsource
      cases hmedia
      exact .inr rfl
    · cases hmedia
      exact .inl rfl
    · cases hmedia
      exact .inl rfl
    · cases hsource

/-- The print defaults form leaves sources and entries, and `mediaDefault` is then the entry of the
    source that it names. -/
theorem applyDefaultsForm_sources {f : Form} {o o' : DriverOptions} {names : List Default}
    (h : applyDefaultsForm f o = .ok (o', names)) :
    o'.sources = o.sources ∧ o'.mediaReady = o.mediaReady ∧
      ∀ name k media, f.value? "media-source" = some name →
        o.sourceIndex? (.string name) = some k → o.mediaReady[k]? = some media →
          o'.mediaDefault = media := by
  obtain ⟨c, hc, h⟩ := bind_eq_ok.1 h
  obtain ⟨found, hfound, h⟩ := bind_eq_ok.1 h
  cases h
  refine ⟨rfl, rfl, fun name k media hname hk hmedia => ?_⟩
  simp only [DefaultsChange.ofForm, bind_eq_ok] at hc
  obtain ⟨_, -, _, -, _, -, _, -, hc⟩ := hc
  cases hc
  unfold Form.value? at hname
  rw [Option.join_eq_some_iff] at hname
  unfold DefaultsChange.mediaFor at hfound
  rw [hname, Option.map_some, Option.bind_some, Option.elim_some, hk] at hfound
  dsimp only at hfound
  rw [hmedia] at hfound
  cases hfound
  rfl

/-- An entry that `applyMediaForm` makes is empty or bears the name of its source, whatever the form
    holds. -/
theorem entry_applyMediaForm (f : Form) (o : DriverOptions) {k : Nat} {source : Json}
    {media : LoadedMedia} (hsource : o.sources[k]? = some source)
    (hmedia : (applyMediaForm f o).1.mediaReady[k]? = some media) :
    media = .empty ∨ media.source = source := by
  rw [getElem?_applyMediaForm, hsource, Option.map_some, Option.some.injEq] at hmedia
  subst hmedia
  split
  · exact .inl rfl
  · unfold submittedEntry
    cases f.value? (readyField k "size") with
    | none => exact .inl rfl
    | some size => exact .inr rfl

/-- **A submission leaves each entry to its source** (`Sourced`): the media form makes all of them
    anew, and the print defaults form none. -/
theorem Sourced.apply {o : DriverOptions} (ho : o.Sourced) (s : Submission) :
    (s.apply o).Sourced := by
  cases s with
  | media f =>
    rw [Submission.apply, submitMediaForm]
    split
    · rename_i changed _ h
      split at h
      · cases h
      · cases h
        exact {
          aligned := aligned_applyMediaForm f o
          named := ho.named
          nodup := ho.nodup
          entry := fun k source media => entry_applyMediaForm f o }
    · exact ho
  | defaults f =>
    rw [Submission.apply]
    split
    · rename_i changed _ h
      -- the form of the defaults leaves alone what is loaded
      obtain ⟨hsources, hready, -⟩ := applyDefaultsForm_sources h
      exact {
        aligned := by rw [Aligned, hsources, hready]; exact ho.aligned
        named := by rw [hsources]; exact ho.named
        nodup := by rw [hsources]; exact ho.nodup
        entry := by rw [hsources, hready]; exact ho.entry }
    · exact ho

/-- **What submissions leave**: each entry is empty or bears the name of its source.  By induction
    on the run, with `Sourced.apply` for its step. -/
theorem sourced_afterSubmissions (ss : List Submission) : (afterSubmissions ss).Sourced := by
  suffices h : ∀ o : DriverOptions, o.Sourced → (ss.foldl Submission.apply o).Sourced from
    h _ sourced_labelPrinter
  induction ss with
  | nil => exact fun o ho => ho
  | cons s rest ih => exact fun o ho => ih _ (ho.apply s)

/-! ## The choices

  What a choice shows depends on what is loaded for its source, but its value is the source itself.
  Only the default media decide on the selection, so it may change with nothing else. -/

/-- The sources that are offered, with what is loaded in them. -/
def offeredSources (o : DriverOptions) : List (Json × LoadedMedia) :=
  (o.sources.zip o.mediaReady).filter fun p => !isManual p.1

/-- The choice of a source, given the name in the default media (`chosen`). -/
def sourceChoice (withSource : Bool) (chosen : Json) (p : Json × LoadedMedia) :
    Except Fault Choice := do
  return {
    value := p.1
    label := ← p.2.label withSource
    selected := p.1.same chosen }

/-- The choices of sources as a map over `offeredSources`, with `sourceChoice` for one of them. -/
theorem sourceChoices_eq (o : DriverOptions) :
    sourceChoices o =
      o.offeredSources.mapM (sourceChoice (LoadedMedia.hasTwins o.mediaReady) o.mediaDefault.source) :=
  rfl

/-- The choice of a source can be made for other default media if it can be made at all; only
    `selected` is another. -/
theorem sourceChoice_of_ok {withSource : Bool} {chosen : Json} {p : Json × LoadedMedia} {c : Choice}
    (h : sourceChoice withSource chosen p = .ok c) (chosen' : Json) :
    sourceChoice withSource chosen' p = .ok { c with selected := c.value.same chosen' } := by
  obtain ⟨label, hlabel, h⟩ := bind_eq_ok.1 h
  cases h
  rw [sourceChoice, hlabel]
  rfl

/-- The values of the source control are the sources, without the manual ones. -/
theorem values_sourceChoices {o : DriverOptions} {choices : List Choice}
    (h : sourceChoices o = .ok choices) :
    choices.map (·.value) = o.offeredSources.map (·.1) := by
  rw [sourceChoices_eq] at h
  refine map_of_mapM_ok h fun p _ c hc => ?_
  obtain ⟨label, -, hc⟩ := bind_eq_ok.1 hc
  cases hc
  rfl

/-- With the same sources and entries the page offers the same choices, and selects by the name in
    `mediaDefault`. -/
theorem sourceChoices_of_ok {o o' : DriverOptions} {choices : List Choice}
    (h : sourceChoices o = .ok choices) (hsources : o'.sources = o.sources)
    (hready : o'.mediaReady = o.mediaReady) :
    sourceChoices o' = .ok (choices.map fun c =>
      { c with selected := c.value.same o'.mediaDefault.source }) := by
  rw [sourceChoices_eq] at h ⊢
  rw [hready, show o'.offeredSources = o.offeredSources by
    rw [offeredSources, offeredSources, hsources, hready]]
  exact mapM_of_mapM_ok h fun p _ c hc => sourceChoice_of_ok hc _

namespace Sourced

variable {o : DriverOptions} {choices : List Choice} (ho : o.Sourced)
  (hchoices : sourceChoices o = .ok choices)

include ho hchoices

theorem nodup_values : (choices.map (·.value)).Nodup := by
  rw [values_sourceChoices hchoices]
  have hall : (o.sources.zip o.mediaReady).map (·.1) = o.sources :=
    List.map_fst_zip (Nat.le_of_eq ho.aligned.symm)
  exact (hall ▸ List.filter_sublist.map _ : (o.offeredSources.map (·.1)).Sublist o.sources).nodup
    ho.nodup

/-- A source that is offered (`offeredSources`) has a name and a place, and an entry at that
    place. -/
theorem exists_offered {c : Choice} (hc : c ∈ choices) :
    ∃ (name : String) (k : Nat) (media : LoadedMedia), c.value = .string name ∧ name ≠ "" ∧
      o.sources[k]? = some (.string name) ∧ o.mediaReady[k]? = some media := by
  have hvalue := List.mem_map_of_mem (f := Choice.value) hc
  rw [values_sourceChoices hchoices] at hvalue
  obtain ⟨⟨source, media⟩, hoffered, hsource⟩ := List.mem_map.1 hvalue
  obtain ⟨k, hk⟩ := List.mem_iff_getElem?.1 (List.mem_filter.1 hoffered).1
  rw [List.getElem?_zip_eq_some] at hk
  obtain ⟨name, rfl, hne⟩ := ho.named source (List.mem_of_getElem? hk.1)
  exact ⟨name, k, media, hsource.symm, hne, hk.1, hk.2⟩

end Sourced

/-! ## After a pick

  The default media are a copy of the entry that was picked.  The page selects the sources with the
  name that this copy has: one, or none if the entry is empty. -/

/-- The values that are selected are those that are the same as the `chosen` one. -/
theorem selected_values (choices : List Choice) (chosen : Json) :
    ((choices.map fun c => { c with selected := c.value.same chosen }).filter (·.selected)).map
        (·.value) = (choices.map (·.value)).filter (·.same chosen) := by
  rw [List.filter_map, List.map_map, List.filter_map]
  rfl

/-- Among values without repetition, one is the same as a text, if the text is there. -/
theorem filter_same_of_nodup {values : List Json} {text : String} (h : values.Nodup)
    (hmem : .string text ∈ values) : values.filter (·.same (.string text)) = [.string text] := by
  have hsame : ∀ v ∈ values.filter (·.same (.string text)), v = .string text :=
    fun v hv => Json.same_string_iff.1 (List.mem_filter.1 hv).2
  have hpos : 0 < (values.filter (·.same (.string text))).length :=
    List.length_pos_of_mem (List.mem_filter.2 ⟨hmem, Json.same_string_iff.2 rfl⟩)
  have hnodup := h.filter (·.same (.string text))
  rw [List.eq_replicate_of_mem hsame, List.nodup_replicate] at hnodup
  rw [List.eq_replicate_of_mem hsame, show (values.filter (·.same (.string text))).length = 1 by omega]
  rfl

/-- The place of a source is found by its `name`, since no other source has it. -/
theorem Sourced.sourceIndex?_eq {o : DriverOptions} (ho : o.Sourced) {name : String} {k : Nat}
    (hk : o.sources[k]? = some (.string name)) : o.sourceIndex? (.string name) = some k := by
  obtain ⟨hlt, hget⟩ := List.getElem?_eq_some_iff.1 hk
  refine List.findIdx?_eq_some_iff_getElem.2 ⟨hlt, Json.same_string_iff.2 hget, ?_⟩
  intro j hj hsame
  have hfirst : o.sources[j] = o.sources[k] :=
    (Json.same_string_iff.1 hsame).trans hget.symm
  exact absurd ((ho.nodup.getElem_inj_iff).1 hfirst) (Nat.ne_of_lt hj)

/-- **After a pick of a source**, `mediaDefault` is the entry of the source, and `sourceChoices`
    offers what it offered.  It selects the source if that entry bears its name, and nothing if the
    entry is `.empty`. -/
theorem Sourced.selected_after_pick {o o' : DriverOptions} {choices : List Choice} (ho : o.Sourced)
    (hchoices : sourceChoices o = .ok choices) {name : String} {k : Nat} {media : LoadedMedia}
    (hvalue : .string name ∈ choices.map (·.value)) (hk : o.sources[k]? = some (.string name))
    (hmedia : o.mediaReady[k]? = some media) {f : Form} {names : List Default}
    (hname : f.value? "media-source" = some name)
    (h : applyDefaultsForm f o = .ok (o', names)) :
    o'.mediaDefault = media ∧ ∃ after, sourceChoices o' = .ok after ∧
      after.map (fun c => (c.value, c.label)) = choices.map (fun c => (c.value, c.label)) ∧
      (media ≠ .empty → (after.filter (·.selected)).map (·.value) = [.string name]) ∧
      (media = .empty → after.filter (·.selected) = []) := by
  obtain ⟨hsources, hready, hdefault⟩ := applyDefaultsForm_sources h
  have hcopied : o'.mediaDefault = media :=
    hdefault name k media hname (ho.sourceIndex?_eq hk) hmedia
  have hafter := sourceChoices_of_ok hchoices hsources hready
  rw [hcopied] at hafter
  refine ⟨hcopied, _, hafter, ?_, fun hne => ?_, fun hempty => ?_⟩
  · rw [List.map_map]
    rfl
  · rw [selected_values, (ho.entry k _ media hk hmedia).resolve_left hne]
    exact filter_same_of_nodup (ho.nodup_values hchoices) hvalue
  · rw [← List.map_eq_nil_iff (f := Choice.value), selected_values, List.filter_eq_nil_iff, hempty]
    intro v hv hsame
    -- no source has the name of an empty entry
    obtain ⟨c, hc, rfl⟩ := List.mem_map.1 hv
    obtain ⟨name', -, -, hname', hne, -⟩ := ho.exists_offered hchoices hc
    cases hname'.symm.trans (Json.same_string_iff.1 hsame)
    exact hne rfl

/-- A form with a source alone puts the entry of the source into `mediaDefault` and changes nothing
    besides. -/
theorem Sourced.apply_oneField {o : DriverOptions} (ho : o.Sourced) {name : String} {k : Nat}
    {media : LoadedMedia} (hk : o.sources[k]? = some (.string name))
    (hmedia : o.mediaReady[k]? = some media) :
    applyDefaultsForm (oneField "media-source" name) o =
      .ok ({ o with mediaDefault := media }, [.media]) := by
  have hread : Default.read o .media (some name) = some media := by
    rw [Default.read, Option.elim_some, ho.sourceIndex?_eq hk, Option.bind_some, hmedia]
  exact applyDefaultsForm_oneField_of_aligned hread ho.aligned (List.forall_mem_nil _)

/-- No submission changes the sources: by induction on the run, for both forms. -/
theorem sources_afterSubmissions (ss : List Submission) :
    (afterSubmissions ss).sources = labelPrinter.sources := by
  suffices h : ∀ o : DriverOptions, (ss.foldl Submission.apply o).sources = o.sources from h _
  induction ss with
  | nil => exact fun o => rfl
  | cons s rest ih =>
    intro o
    rw [List.foldl_cons, ih]
    cases s with
    | media f =>
      rw [Submission.apply, submitMediaForm]
      split
      · rename_i changed _ h
        split at h <;> cases h
        rfl
      · rfl
    | defaults f =>
      rw [Submission.apply]
      split
      · rename_i changed _ h
        exact (applyDefaultsForm_sources h).1
      · rfl

/-- The sources that are offered are the rolls of the label printer, whatever was submitted. -/
theorem values_afterSubmissions {ss : List Submission} {choices : List Choice}
    (h : sourceChoices (afterSubmissions ss) = .ok choices) :
    choices.map (·.value) = [.string "main-roll", .string "alternate-roll"] := by
  have haligned := (sourced_afterSubmissions ss).aligned
  have hall := List.map_fst_zip (Nat.le_of_eq haligned.symm)
  have hfilter : (afterSubmissions ss).offeredSources.map (·.1) =
      (afterSubmissions ss).sources.filter (fun source => !isManual source) := by
    rw [← hall, List.filter_map]
    rfl
  rw [values_sourceChoices h, hfilter, sources_afterSubmissions]
  rfl

/-- **A configured source that is picked is selected, and nothing else is.**  After any submissions
    to the label printer, a source that `sourceChoices` offers is taken.  A form with nothing else
    changes `mediaDefault` alone; every form with it that is taken puts the entry of the source
    there, be it `.empty` or not.  The page then offers what it offered, and it selects this source
    alone if the source is configured, and nothing if it is not. -/
theorem source_pick_selects (ss : List Submission) {choices : List Choice} {c : Choice}
    (hchoices : sourceChoices (afterSubmissions ss) = .ok choices) (hc : c ∈ choices) :
    ∃ (name : String) (k : Nat) (media : LoadedMedia), c.value = .string name ∧
      (afterSubmissions ss).sources[k]? = some (.string name) ∧
      (afterSubmissions ss).mediaReady[k]? = some media ∧
      applyDefaultsForm (oneField "media-source" name) (afterSubmissions ss) =
        .ok ({ afterSubmissions ss with mediaDefault := media }, [.media]) ∧
      ∀ (f : Form) (o' : DriverOptions) (names : List Default),
        f.value? "media-source" = some name →
        applyDefaultsForm f (afterSubmissions ss) = .ok (o', names) →
          o'.mediaDefault = media ∧ ∃ after, sourceChoices o' = .ok after ∧
            after.map (fun c => (c.value, c.label)) = choices.map (fun c => (c.value, c.label)) ∧
            (media ≠ .empty → (after.filter (·.selected)).map (·.value) = [.string name]) ∧
            (media = .empty → after.filter (·.selected) = []) := by
  have ho := sourced_afterSubmissions ss
  obtain ⟨name, k, media, hvalue, -, hk, hmedia⟩ := ho.exists_offered hchoices hc
  refine ⟨name, k, media, hvalue, hk, hmedia, ho.apply_oneField hk hmedia, ?_⟩
  intro f o' names hname h
  have hmem : .string name ∈ choices.map (·.value) := hvalue ▸ List.mem_map_of_mem hc
  exact ho.selected_after_pick hchoices hmem hk hmedia hname h

/-- A photo size, submitted for the alternate roll. -/
def photoForm : Form := ⟨[("ready1-size", some "na_5x7_5x7in")]⟩

/-- The alternate roll, picked once a photo size is in it. -/
theorem source_pick_selects_alternate_roll :
    ∃ choices c o' after, sourceChoices (afterSubmissions [.media photoForm]) = .ok choices ∧
      c ∈ choices ∧ c.value = .string "alternate-roll" ∧
      applyDefaultsForm (oneField "media-source" "alternate-roll")
        (afterSubmissions [.media photoForm]) = .ok (o', [.media]) ∧
      sourceChoices o' = .ok after ∧
      (after.filter (·.selected)).map (·.value) = [.string "alternate-roll"] := by
  obtain ⟨choices, hchoices⟩ :
      ∃ choices, sourceChoices (afterSubmissions [.media photoForm]) = .ok choices :=
    exists_eq_ok (by decide +kernel)
  have hvalues := values_afterSubmissions hchoices
  obtain ⟨c, hc, hvalue⟩ : ∃ c ∈ choices, c.value = .string "alternate-roll" :=
    List.mem_map.1 (hvalues ▸ List.mem_cons_of_mem _ List.mem_cons_self)
  obtain ⟨name, k, media, hname, hk, hmedia, happly, hpick⟩ := source_pick_selects _ hchoices hc
  cases hname.symm.trans hvalue
  obtain ⟨-, after, hafter, -, hselected, -⟩ :=
    hpick _ _ _ (by simp [oneField, Form.value?, Form.field?]) happly
  -- what is left is that the alternate roll is loaded: its size is the one of the form
  have hready : afterSubmissions [.media photoForm] = (applyMediaForm photoForm .labelPrinter).1 := by
    have hfits : labelPrinter.sources.zipIdx.any
        (fun entry => !isManual entry.1 && sizeOverflows photoForm entry.2) = false := by
      decide +kernel
    show Submission.apply labelPrinter (.media photoForm) = _
    rw [Submission.apply, submitMediaForm, hfits]
    rfl
  have hsource : (afterSubmissions [.media photoForm]).sources[1]? =
      some (.string "alternate-roll") := by
    rw [sources_afterSubmissions]
    rfl
  have ho := sourced_afterSubmissions [.media photoForm]
  obtain rfl : 1 = k :=
    Option.some.inj ((ho.sourceIndex?_eq hsource).symm.trans (ho.sourceIndex?_eq hk))
  have hconfigured : media ≠ .empty := by
    have hsize : photoForm.value? (readyField 1 "size") = some "na_5x7_5x7in" := by decide +kernel
    have hlabel : labelPrinter.sources[1]? = some (.string "alternate-roll") := rfl
    rw [hready, getElem?_applyMediaForm, hlabel, Option.map_some, if_neg (by decide),
      submittedEntry, hsize, Option.map_some, Option.getD_some, Option.some.injEq] at hmedia
    rintro rfl
    exact absurd (Json.string.inj (congrArg LoadedMedia.source hmedia)) (by decide)
  exact ⟨choices, c, _, after, hchoices, hc, hvalue, happly, hafter, hselected hconfigured⟩

/-- The roll `alternate-roll` of a new label printer is unconfigured, and picking it selects
    nothing. -/
theorem not_forall_source_pick_selects :
    ¬ ∀ (ss : List Submission) (choices : List Choice) (c : Choice) (name : String)
        (o' : DriverOptions) (names : List Default) (after : List Choice),
      sourceChoices (afterSubmissions ss) = .ok choices → c ∈ choices → c.value = .string name →
      applyDefaultsForm (oneField "media-source" name) (afterSubmissions ss) = .ok (o', names) →
      sourceChoices o' = .ok after →
        (after.filter (·.selected)).map (·.value) = [.string name] := by
  intro h
  have ho := sourced_afterSubmissions []
  obtain ⟨choices, hchoices⟩ : ∃ choices, sourceChoices (afterSubmissions []) = .ok choices :=
    exists_eq_ok (by decide +kernel)
  have hmem : Json.string "alternate-roll" ∈ choices.map (·.value) :=
    values_afterSubmissions hchoices ▸ List.mem_cons_of_mem _ List.mem_cons_self
  obtain ⟨c, hc, hvalue⟩ := List.mem_map.1 hmem
  have hk : (afterSubmissions []).sources[1]? = some (.string "alternate-roll") := rfl
  have hmedia : (afterSubmissions []).mediaReady[1]? = some .empty := rfl
  have happly := ho.apply_oneField hk hmedia
  obtain ⟨-, after, hafter, -, -, hnothing⟩ :=
    ho.selected_after_pick hchoices hmem hk hmedia (by simp [oneField, Form.value?, Form.field?]) happly
  have hselected := h [] choices c _ _ _ after hchoices hc hvalue happly hafter
  rw [hnothing rfl] at hselected
  cases hselected

end PrinterConsole.DriverOptions
