/-
  What forms keep.

  The forms for the print defaults, the media and the identity replace parts of what is saved.
  What they put in is made of texts, numbers and what was there before, so values that can be
  saved and read back (`Storable`) and whose objects have each key once (`Keyed`) stay such
  values.  The second is looked at part by part, since a part that a form may replace keeps what
  holds of both its old and its new value (`getD_of_forall`).

  Main statements: the forms keep options storable (`DriverOptions.storable_applyDefaultsForm`,
  `DriverOptions.storable_applyMediaForm`), and they keep their members under keys of their own
  (`DriverOptions.keyed_applyDefaultsForm`, `DriverOptions.keyed_applyMediaForm`,
  `Identity.keyed_applyForm`).
-/
import PrinterConsole.Driver.DefaultsForm
import PrinterConsole.Driver.MediaForm
import PrinterConsole.Identity.Form
import PrinterConsole.Proofs.State.Keyed

namespace PrinterConsole

namespace DriverOptions

/-- The print defaults form leaves alone all that `Storable` is about. -/
theorem storable_applyDefaultsForm {f : Form} {o o' : DriverOptions} {written : List Default}
    (h : applyDefaultsForm f o = .ok (o', written)) (ho : o.Storable) : o'.Storable := by
  obtain ⟨c, -, h⟩ := bind_eq_ok.1 h
  obtain ⟨media, -, h⟩ := bind_eq_ok.1 h
  cases h
  exact ⟨ho.color, ho.color_ne, ho.sides, ho.sides_ne, ho.content, ho.content_ne, ho.scaling,
    ho.scaling_ne, ho.tracking, ho.aligned⟩

/-- The new default media are those loaded in a source, so `Keyed` passes on to them. -/
theorem keyed_applyDefaultsForm {f : Form} {o o' : DriverOptions} {written : List Default}
    (h : applyDefaultsForm f o = .ok (o', written)) (ho : o.Keyed) : o'.Keyed := by
  obtain ⟨c, -, h⟩ := bind_eq_ok.1 h
  obtain ⟨media, hmedia, h⟩ := bind_eq_ok.1 h
  cases h
  obtain ⟨hspeed, hresolutions, hmedia', htypes, hsources, hready, hdefault, hleft, htop⟩ :=
    (keyed_iff o).1 ho
  refine (keyed_iff _).2 ⟨hspeed, hresolutions, hmedia', htypes, hsources, hready, ?_, hleft, htop⟩
  -- the new default, if there is one, is an entry of the ready media
  show (media.getD o.mediaDefault).Keyed
  cases media with
  | none => exact hdefault
  | some m =>
    unfold DefaultsChange.mediaFor at hmedia
    split at hmedia
    · cases hmedia
    · split at hmedia
      · rename_i hm
        cases hmedia
        exact hready m (List.mem_of_getElem? hm)
      · cases hmedia

/-- `applyMediaForm` fits the ready media to the sources. -/
theorem storable_applyMediaForm {o : DriverOptions} (f : Form) (ho : o.Storable) :
    (applyMediaForm f o).1.Storable :=
  ⟨ho.color, ho.color_ne, ho.sides, ho.sides_ne, ho.content, ho.content_ne, ho.scaling,
    ho.scaling_ne, ho.tracking, aligned_applyMediaForm f o⟩

/-- A new entry has the source it is for, and texts besides; both are `Keyed`. -/
theorem keyed_applyMediaForm {o : DriverOptions} (f : Form) (ho : o.Keyed) :
    (applyMediaForm f o).1.Keyed := by
  obtain ⟨hspeed, hresolutions, hmedia, htypes, hsources, -, hdefault, hleft, htop⟩ :=
    (keyed_iff o).1 ho
  refine (keyed_iff _).2 ⟨hspeed, hresolutions, hmedia, htypes, hsources, ?_, hdefault, hleft, htop⟩
  intro m hm
  obtain ⟨e, he, rfl⟩ := List.mem_map.1 hm
  obtain ⟨⟨source, index⟩, hsource, rfl⟩ := List.mem_map.1 he
  have hs : source.WellKeyed := hsources source (List.fst_mem_of_mem_zipIdx hsource)
  show ((if isManual source then none
    else submittedEntry f o.bottomTop o.leftRight index source).getD .empty).Keyed
  split
  · exact LoadedMedia.keyed_empty
  · unfold submittedEntry
    cases f.value? (readyField index "size") with
    | none => exact LoadedMedia.keyed_empty
    | some size => exact (LoadedMedia.keyed_iff _).2 ⟨trivial, hs, trivial⟩

end DriverOptions

namespace Identity

/-- A `textField` gives a text or null. -/
theorem wellKeyed_textField {f : Form} {name : String} {limit : Nat} {field : Option Json}
    (h : textField f name limit = .ok field) : ∀ v ∈ field, v.WellKeyed := by
  unfold textField at h
  split at h
  · cases h
    simp
  · cases h
  · obtain ⟨plain, -, h⟩ := bind_eq_ok.1 h
    cases h
    rintro v ⟨⟩
    split <;> trivial

/-- The location that a form sets is a text or nothing. -/
theorem wellKeyed_geoField (f : Form) : ∀ v ∈ geoField f, v.WellKeyed := by
  intro v hv
  unfold geoField at hv
  split at hv
  · split at hv
    · cases hv
      trivial
    · split at hv <;> cases hv
      trivial
  · cases hv

/-- A contact from a form (`contactField`) is made of texts. -/
theorem wellKeyed_contactField {f : Form} {field : Option Contact}
    (h : contactField f = .ok field) :
    ∀ c ∈ field, c.name.WellKeyed ∧ c.email.WellKeyed ∧ c.telephone.WellKeyed := by
  unfold contactField at h
  dsimp only at h
  split at h
  · cases h
    simp
  · simp only [bind_eq_ok] at h
    obtain ⟨_, -, _, -, _, -, h⟩ := h
    cases h
    rintro c ⟨⟩
    exact ⟨trivial, trivial, trivial⟩

/-- A field that a form may replace keeps what holds (`P`) of its old and its new value. -/
theorem getD_of_forall {α : Type} {P : α → Prop} {old : α} {new : Option α} (hold : P old)
    (hnew : ∀ v ∈ new, P v) : P (new.getD old) := by
  cases new with
  | none => exact hold
  | some v => exact hnew v rfl

/-- A form writes texts, and the contact anew; neither has a key twice (`Keyed`). -/
theorem keyed_applyForm {f : Form} {i i' : Identity} {written : List Part}
    (h : applyForm f i = .ok (i', written)) (hi : i.Keyed) : i'.Keyed := by
  obtain ⟨c, hc, h⟩ := bind_eq_ok.1 h
  cases h
  simp only [Change.ofForm, bind_eq_ok] at hc
  obtain ⟨name, hname, location, hlocation, organization, horganization, unit, hunit, contact,
    hcontact, hc⟩ := hc
  cases hc
  obtain ⟨iname, ilocation, igeo, iorganization, iunit, icontact⟩ := (keyed_iff i).1 hi
  refine (keyed_iff _).2 ⟨?_, ?_, ?_, ?_, ?_, ?_⟩
  · exact getD_of_forall iname (wellKeyed_textField hname)
  · exact getD_of_forall ilocation (wellKeyed_textField hlocation)
  · exact getD_of_forall igeo (wellKeyed_geoField f)
  · exact getD_of_forall iorganization (wellKeyed_textField horganization)
  · exact getD_of_forall iunit (wellKeyed_textField hunit)
  · exact getD_of_forall
      (P := fun c : Contact => c.name.WellKeyed ∧ c.email.WellKeyed ∧ c.telephone.WellKeyed)
      icontact (wellKeyed_contactField hcontact)

end Identity

end PrinterConsole
