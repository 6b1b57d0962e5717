/-
  The configuration form is a partial update.

  Every part of an identity is read from fields of its own, and what a submission asks of a part
  (`submitted`) is what these fields give by themselves: nothing if they are absent, and nothing
  for a location of which a coordinate is no number.  A submission puts together what it asks of
  the parts and leaves the others.

  Reading the texts can fail in one way, a reference of too many digits (`IsUncleanable`), and a
  single one of them fails the whole submission.  Which texts are cleaned at all is told part by
  part (`Part.textNames`), so that what is accepted can be said of all texts at once.

  Main statements: a submission of texts is accepted exactly if none of them has such a reference
  (`applyForm_isOk_iff`), and what is accepted changes the parts that are submitted
  (`applyForm_spec`).
-/
import PrinterConsole.Identity.Form
import PrinterConsole.Proofs.Driver.PartialUpdate
import PrinterConsole.Proofs.Markup.LongReference

namespace PrinterConsole

open PrinterConsole.Markup

namespace Form

/-- Every field that is present in the form `f` has a text. -/
def IsText (f : Form) : Prop := ∀ x ∈ f.fields, x.2.isSome = true

instance (f : Form) : Decidable f.IsText :=
  inferInstanceAs (Decidable (∀ x ∈ f.fields, x.2.isSome = true))

theorem mem_of_field? {f : Form} {name : String} {v : Option String} (h : f.field? name = some v) :
    (name, v) ∈ f.fields := by
  unfold field? at h
  obtain ⟨before, after, hfields, -⟩ := List.lookup_eq_some_iff.1 h
  rw [hfields]
  simp

theorem IsText.field?_ne {f : Form} (hf : f.IsText) (name : String) : f.field? name ≠ some none := by
  intro h
  cases hf _ (mem_of_field? h)

end Form

namespace Identity

/-! ## Parts one by one

  The parts of an identity as a family: `current` reads one, and what a form asks for one is
  `submitted`. -/

/-- All of `Part`, in the order in which they are written. -/
def Part.all : List Part := [.dnsSdName, .location, .organization, .orgUnit, .geoLocation, .contact]

/-- What a `Part` of an identity is: JSON, or a contact. -/
abbrev Part.Value : Part → Type
  | .dnsSdName | .location | .organization | .orgUnit | .geoLocation => Json
  | .contact => Contact

/-- A `Part` of the identity `i`. -/
def current (i : Identity) : (part : Part) → part.Value
  | .dnsSdName => i.dnsSdName
  | .location => i.location
  | .organization => i.organization
  | .orgUnit => i.orgUnit
  | .geoLocation => i.geoLocation
  | .contact => i.contact

/-- The fields of a `Part` whose texts are cleaned. -/
def Part.textNames : Part → List String
  | .dnsSdName => ["dns_sd_name"]
  | .location => ["location"]
  | .organization => ["organization"]
  | .orgUnit => ["organizational_unit"]
  | .geoLocation => []
  | .contact => ["contact_name", "contact_email", "contact_telephone"]

/-- What the form `f` asks of a `Part`. -/
def submitted (f : Form) : (part : Part) → Option part.Value
  | .dnsSdName => (textField f "dns_sd_name" nameLimit).toOption.join
  | .location => (textField f "location" textLimit).toOption.join
  | .organization => (textField f "organization" textLimit).toOption.join
  | .orgUnit => (textField f "organizational_unit" textLimit).toOption.join
  | .geoLocation => geoField f
  | .contact => (contactField f).toOption.join

/-- No text that the configuration form cleans is an `IsUncleanable` one, with a reference of too
    many digits. -/
def HasShortReferences (f : Form) : Prop :=
  ∀ part : Part, ∀ name ∈ part.textNames, ∀ text ∈ f.value? name, ¬ IsUncleanable text

/-! ## Which fields are accepted

  A field is refused for a reference of too many digits in its text, and for nothing else, as long
  as all fields are texts. -/

/-- **A `textField` is accepted exactly if its text can be cleaned**; an absent one always is. -/
theorem textField_isOk_iff {f : Form} (hf : f.IsText) {name : String} {limit : Nat} :
    (∃ field, textField f name limit = .ok field) ↔
      ∀ text ∈ f.value? name, ¬ IsUncleanable text := by
  unfold textField Form.value?
  rcases hfield : f.field? name with _ | _ | text
  · exact iff_of_true ⟨none, rfl⟩ nofun
  · exact absurd hfield (hf.field?_ne name)
  · simp only [Option.join_some, Option.mem_def, Option.some.injEq, forall_eq']
    rw [← @clean_isOk_iff limit]
    constructor
    · rintro ⟨field, h⟩
      obtain ⟨plain, hplain, -⟩ := bind_eq_ok.1 h
      exact ⟨plain, hplain⟩
    · rintro ⟨plain, hplain⟩
      exact ⟨_, bind_eq_ok.2 ⟨plain, hplain, rfl⟩⟩

theorem clean_getD_isOk_iff {text : Option String} {limit : Nat} :
    (∃ plain, clean limit (text.getD "") = .ok plain) ↔ ∀ t ∈ text, ¬ IsUncleanable t := by
  cases text with
  | none => exact iff_of_true ⟨"", rfl⟩ nofun
  | some t =>
    rw [Option.getD_some, clean_isOk_iff]
    simp only [Option.mem_def, Option.some.injEq, forall_eq']

/-- **A `contactField` is accepted exactly if its texts can be cleaned**, all three of them if one
    is present. -/
theorem contactField_isOk_iff {f : Form} :
    (∃ field, contactField f = .ok field) ↔
      ∀ name ∈ Part.contact.textNames, ∀ text ∈ f.value? name, ¬ IsUncleanable text := by
  have hnames : (∀ name ∈ Part.contact.textNames, ∀ text ∈ f.value? name, ¬ IsUncleanable text) ↔
      (∀ text ∈ f.value? "contact_name", ¬ IsUncleanable text) ∧
        (∀ text ∈ f.value? "contact_email", ¬ IsUncleanable text) ∧
          ∀ text ∈ f.value? "contact_telephone", ¬ IsUncleanable text := by
    simp only [Part.textNames, List.forall_mem_cons, List.not_mem_nil, false_imp_iff, implies_true,
      and_true]
  rw [hnames]
  simp only [← @clean_getD_isOk_iff _ contactLimit]
  unfold contactField
  dsimp only
  split
  · -- without a contact there is nothing to be cleaned
    rename_i habsent
    simp only [Bool.and_eq_true, Option.isNone_iff_eq_none] at habsent
    obtain ⟨⟨hname, hemail⟩, htelephone⟩ := habsent
    rw [hname, hemail, htelephone]
    exact iff_of_true ⟨none, rfl⟩ ⟨⟨"", rfl⟩, ⟨"", rfl⟩, ⟨"", rfl⟩⟩
  · constructor
    · rintro ⟨field, h⟩
      simp only [bind_eq_ok] at h
      obtain ⟨name, hname, email, hemail, telephone, htelephone, -⟩ := h
      exact ⟨⟨name, hname⟩, ⟨email, hemail⟩, ⟨telephone, htelephone⟩⟩
    · rintro ⟨⟨name, hname⟩, ⟨email, hemail⟩, ⟨telephone, htelephone⟩⟩
      rw [hname, ok_bind, hemail, ok_bind, htelephone, ok_bind]
      exact ⟨_, rfl⟩

/-! ## Which submissions are accepted, and what they change -/

/-- **A submission of texts is accepted exactly if all of its references are short**: field by
    field, by `textField_isOk_iff` and `contactField_isOk_iff`. -/
theorem applyForm_isOk_iff {f : Form} (hf : f.IsText) (i : Identity) :
    (∃ r, applyForm f i = .ok r) ↔ HasShortReferences f := by
  constructor
  · rintro ⟨r, hr⟩
    obtain ⟨c, hc, -⟩ := bind_eq_ok.1 hr
    simp only [Change.ofForm, bind_eq_ok] at hc
    obtain ⟨name, hname, location, hlocation, organization, horganization, unit, hunit, contact,
      hcontact, -⟩ := hc
    intro part
    cases part with
    | dnsSdName => exact List.forall_mem_singleton.2 ((textField_isOk_iff hf).1 ⟨_, hname⟩)
    | location => exact List.forall_mem_singleton.2 ((textField_isOk_iff hf).1 ⟨_, hlocation⟩)
    | organization =>
      exact List.forall_mem_singleton.2 ((textField_isOk_iff hf).1 ⟨_, horganization⟩)
    | orgUnit => exact List.forall_mem_singleton.2 ((textField_isOk_iff hf).1 ⟨_, hunit⟩)
    | geoLocation => exact List.forall_mem_nil _
    | contact => exact contactField_isOk_iff.1 ⟨_, hcontact⟩
  · intro hshort
    have htext : ∀ part : Part, ∀ name ∈ part.textNames, ∀ limit,
        ∃ field, textField f name limit = .ok field :=
      fun part name hname limit => (textField_isOk_iff hf).2 (hshort part name hname)
    obtain ⟨name, hname⟩ := htext .dnsSdName _ (.head _) nameLimit
    obtain ⟨location, hlocation⟩ := htext .location _ (.head _) textLimit
    obtain ⟨organization, horganization⟩ := htext .organization _ (.head _) textLimit
    obtain ⟨unit, hunit⟩ := htext .orgUnit _ (.head _) textLimit
    obtain ⟨contact, hcontact⟩ := contactField_isOk_iff.2 (hshort .contact)
    unfold applyForm Change.ofForm
    rw [hname, ok_bind, hlocation, ok_bind, horganization, ok_bind, hunit, ok_bind, hcontact,
      ok_bind]
    exact ⟨_, rfl⟩

/-- **A submission changes the parts that it has `submitted`**, tells which those are, and leaves
    the others; it is about each part by itself. -/
theorem applyForm_spec {f : Form} {i i' : Identity} {written : List Part}
    (h : applyForm f i = .ok (i', written)) :
    (∀ part, i'.current part = (submitted f part).getD (i.current part)) ∧
      written = Part.all.filter fun part => (submitted f part).isSome := by
  obtain ⟨c, hc, h⟩ := bind_eq_ok.1 h
  cases h
  simp only [Change.ofForm, bind_eq_ok] at hc
  obtain ⟨name, hname, location, hlocation, organization, horganization, unit, hunit, contact,
    hcontact, hc⟩ := hc
  cases hc
  -- each part is submitted as its field was read
  have hread : submitted f .dnsSdName = name ∧ submitted f .location = location ∧
      submitted f .organization = organization ∧ submitted f .orgUnit = unit ∧
      submitted f .contact = contact := by
    refine ⟨?_, ?_, ?_, ?_, ?_⟩
    · exact congrArg (fun x => x.toOption.join) hname
    · exact congrArg (fun x => x.toOption.join) hlocation
    · exact congrArg (fun x => x.toOption.join) horganization
    · exact congrArg (fun x => x.toOption.join) hunit
    · exact congrArg (fun x => x.toOption.join) hcontact
  obtain ⟨rfl, rfl, rfl, rfl, rfl⟩ := hread
  constructor
  · intro part
    cases part <;> rfl
  · unfold Part.all Change.written
    simp only [DriverOptions.filter_cons_eq, List.filter_nil, List.append_nil, List.append_assoc]
    rfl

end Identity

end PrinterConsole
