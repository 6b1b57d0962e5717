/-
  How the configuration form treats its fields: one by one, in pairs and as a group.

  A text field is on its own: it changes its part if it is present, and then the part is unset or
  a text as it should be stored (`IsStoredText`).  The coordinates go together: the location
  changes only if both are present, and stays if one of them is no finite number
  (`isSome_geoField_iff`).  The contact is a group: one field of it that is present replaces all
  three texts (`contactField_eq_ok`).  Cleaning trims before it cuts, so a cut text still does not
  begin with a blank, and what is left after cleaning is within its limit whatever the references
  of the text stand for.

  The four text fields are one family (`TextPart`), with the field, the limit and the part of
  each; what is said of one is said of all.  Which parts a form asks for is `Asks`, and it does
  not look at what they are asked to be.

  Main statement: `field_policies`.
-/
import PrinterConsole.Proofs.Identity.PartialUpdate
import PrinterConsole.Proofs.Identity.Resubmit

namespace PrinterConsole

open PrinterConsole.Markup PrinterConsole.Number PrinterConsole.Text

/-! ## Texts that are stored

  A text is cleaned and cut, and an empty one is stored as nothing. -/

namespace Markup

/-- **A cleaned text does not begin with a blank**, also if it was cut: the cut takes away at the
    end (`head_trim_not_blank`). -/
theorem head_clean_not_blank {limit : Nat} {text plain : String} (h : clean limit text = .ok plain) :
    ∀ c ∈ plain.toList.head?, isBlank c = false := by
  unfold clean at h
  dsimp only at h
  split at h
  · cases h
    nofun
  · obtain ⟨v, -, h⟩ := bind_eq_ok.1 h
    cases h
    intro c hc
    rw [String.toList_ofList, List.head?_take] at hc
    split at hc
    · cases hc
    · obtain ⟨rest, hrest⟩ := List.head?_eq_some_iff.1 hc
      exact head_trim_not_blank hrest

end Markup

namespace Identity

/-- A text that a field may store: not empty, within the `limit`, and without a blank in front. -/
structure IsStoredText (limit : Nat) (text : String) : Prop where
  ne_empty : text ≠ ""
  length_le : text.length ≤ limit
  head_not_blank : ∀ c ∈ text.toList.head?, isBlank c = false

/-- What a `textField` that was read asks for: nothing if it is absent, and otherwise its cleaned
    text, or to be unset if nothing is left of it. -/
theorem textField_eq_ok {f : Form} {name : String} {limit : Nat} {field : Option Json}
    (h : textField f name limit = .ok field) :
    (f.value? name = none ∧ field = none) ∨
      ∃ text plain, f.value? name = some text ∧ clean limit text = .ok plain ∧
        field = some (if plain.isEmpty then .null else .string plain) := by
  unfold textField at h
  unfold Form.value?
  split at h
  · rename_i habsent
    cases h
    exact .inl ⟨by rw [habsent]; rfl, rfl⟩
  · cases h
  · rename_i text htext
    obtain ⟨plain, hplain, h⟩ := bind_eq_ok.1 h
    cases h
    exact .inr ⟨text, plain, by rw [htext]; rfl, hplain, rfl⟩

/-- A part that a field has written: unset, or a text that the field may store (`IsStoredText`). -/
def IsStored (limit : Nat) (v : Json) : Prop :=
  v = .null ∨ ∃ text, v = .string text ∧ IsStoredText limit text

/-- What `clean` gives is stored, or nothing at all if it is empty. -/
theorem isStored_clean {limit : Nat} {text plain : String} (h : clean limit text = .ok plain) :
    IsStored limit (if plain.isEmpty then .null else .string plain) := by
  split
  · exact .inl rfl
  · rename_i hne
    refine .inr ⟨plain, rfl, ?_, length_clean_le h, head_clean_not_blank h⟩
    rintro rfl
    exact hne rfl

/-! ## Parts with a field of their own

  Four parts of an identity are read from one field each, in the same way; they differ in the field
  and in the limit only (`TextPart`). -/

/-- The parts of a `Part` that are one text, each with a field of its own. -/
inductive TextPart where
  | dnsSdName | location | organization | orgUnit
  deriving DecidableEq, Repr

namespace TextPart

/-- The field that the part is read from. -/
def fieldName : TextPart → String
  | .dnsSdName => "dns_sd_name"
  | .location => "location"
  | .organization => "organization"
  | .orgUnit => "organizational_unit"

/-- The limit of the text, in characters. -/
def limit : TextPart → Nat
  | .dnsSdName => nameLimit
  | .location | .organization | .orgUnit => textLimit

/-- The part of the identity `i`. -/
def get (i : Identity) : TextPart → Json
  | .dnsSdName => i.dnsSdName
  | .location => i.location
  | .organization => i.organization
  | .orgUnit => i.orgUnit

/-- What the change `c` asks of the part. -/
def asked (c : Change) : TextPart → Option Json
  | .dnsSdName => c.dnsSdName
  | .location => c.location
  | .organization => c.organization
  | .orgUnit => c.orgUnit

end TextPart

/-- What a form asks for is read from its fields, each by itself: `Change.ofForm` taken apart. -/
theorem ofForm_eq_ok {f : Form} {c : Change} (h : Change.ofForm f = .ok c) :
    (∀ p : TextPart, textField f p.fieldName p.limit = .ok (p.asked c)) ∧
      c.geoLocation = geoField f ∧ contactField f = .ok c.contact := by
  simp only [Change.ofForm, bind_eq_ok] at h
  obtain ⟨name, hname, location, hlocation, organization, horganization, unit, hunit, contact,
    hcontact, h⟩ := h
  cases h
  refine ⟨fun p => ?_, rfl, hcontact⟩
  cases p with
  | dnsSdName => exact hname
  | location => exact hlocation
  | organization => exact horganization
  | orgUnit => exact hunit

theorem get_apply (c : Change) (i : Identity) (p : TextPart) :
    p.get (c.apply i) = (p.asked c).getD (p.get i) := by
  cases p <;> rfl

/-! ## The two coordinates

  The location has two fields, which count only together: both have to be there, a blank one clears
  the location, and otherwise both have to be finite numbers. -/

/-- The `text` is read as a finite number. -/
def IsFiniteNumber (text : String) : Prop :=
  ∃ x, readDecimal text.toList = some x ∧ x.isFinite = true

/-- `Form.finiteNumber` is the reading of a float that leaves out infinities and what is no
    number. -/
theorem finiteNumber_eq_some_iff {text : String} {x : Binary64} :
    Form.finiteNumber text = some x ↔ readDecimal text.toList = some x ∧ x.isFinite = true := by
  unfold Form.finiteNumber Binary64.finite?
  rw [Option.bind_eq_some_iff]
  constructor
  · rintro ⟨y, hread, hy⟩
    split at hy
    · cases hy
      exact ⟨hread, by assumption⟩
    · cases hy
  · rintro ⟨hread, hfinite⟩
    exact ⟨x, hread, if_pos hfinite⟩

/-- A text gives no `Form.finiteNumber` if it reads as none or as one that is not finite. -/
theorem finiteNumber_eq_none_iff {text : String} :
    Form.finiteNumber text = none ↔ ¬ IsFiniteNumber text := by
  rw [← Option.not_isSome_iff_eq_none, Option.isSome_iff_exists]
  simp only [finiteNumber_eq_some_iff, IsFiniteNumber]

/-- The form asks for a location: both coordinates are present, and one is blank or both are an
    `IsFiniteNumber`. -/
def AsksLocation (f : Form) : Prop :=
  ∃ lat lon, f.value? "geo_location_lat" = some lat ∧ f.value? "geo_location_lon" = some lon ∧
    (isBlankText lat = true ∨ isBlankText lon = true ∨ IsFiniteNumber lat ∧ IsFiniteNumber lon)

theorem asksLocation_iff {f : Form} {lat lon : String} (hlat : f.value? "geo_location_lat" = some lat)
    (hlon : f.value? "geo_location_lon" = some lon) :
    AsksLocation f ↔ isBlankText lat = true ∨ isBlankText lon = true ∨
      IsFiniteNumber lat ∧ IsFiniteNumber lon := by
  simp only [AsksLocation, hlat, hlon, Option.some.injEq, exists_and_left, exists_eq_left']

/-- `geoField` where both fields are there: a blank one clears the location, and two finite numbers
    set it. -/
theorem geoField_present {f : Form} {lat lon : String}
    (hlat : f.value? "geo_location_lat" = some lat)
    (hlon : f.value? "geo_location_lon" = some lon) :
    geoField f =
      if isBlankText lat || isBlankText lon then some .null
      else (Form.finiteNumber lat).bind fun x =>
        (Form.finiteNumber lon).map fun y => .string (geoUri x y) := by
  unfold geoField
  rw [hlat, hlon]
  dsimp only
  cases Form.finiteNumber lat <;> cases Form.finiteNumber lon <;> rfl

/-- The location that `geoField` reads is what the form asks for: both coordinates are there, and
    not one of them is a text that is neither blank nor a finite number. -/
theorem isSome_geoField_iff {f : Form} : (geoField f).isSome ↔ AsksLocation f := by
  cases hlat : f.value? "geo_location_lat" with
  | none =>
    have hnone : geoField f = none := by
      unfold geoField
      rw [hlat]
    rw [hnone, AsksLocation, hlat]
    exact iff_of_false nofun nofun
  | some lat =>
    cases hlon : f.value? "geo_location_lon" with
    | none =>
      have hnone : geoField f = none := by
        unfold geoField
        rw [hlat, hlon]
      rw [hnone, AsksLocation, hlon]
      exact iff_of_false nofun nofun
    | some lon =>
      rw [geoField_present hlat hlon, asksLocation_iff hlat hlon]
      split
      · rename_i hblank
        rw [Bool.or_eq_true] at hblank
        exact iff_of_true rfl (hblank.imp_right .inl)
      · rename_i hblank
        rw [Bool.or_eq_true, not_or] at hblank
        -- neither is blank, so what is asked for are two numbers
        have hnumbers : ∀ text, (Form.finiteNumber text).isSome ↔ IsFiniteNumber text := by
          intro text
          rw [← not_iff_not, Option.not_isSome_iff_eq_none, finiteNumber_eq_none_iff]
        rw [← hnumbers, ← hnumbers, or_iff_right hblank.1, or_iff_right hblank.2]
        cases Form.finiteNumber lat <;> cases Form.finiteNumber lon <;> simp

/-! ## The contact as a group

  The contact has three fields, of which one is enough for all three to be set.  A field that is
  missing counts as blank then. -/

/-- The form `f` asks for a contact: one of its fields is present. -/
def AsksContact (f : Form) : Prop := ∃ name ∈ Part.contact.textNames, (f.value? name).isSome

/-- A text of a contact that a form has written: within `contactLimit`, and empty if its own field
    is absent. -/
def IsContactText (f : Form) (name : String) (v : Json) : Prop :=
  ∃ text, v = .string text ∧ text.length ≤ contactLimit ∧ (f.value? name = none → text = "")

theorem isContactText_clean {f : Form} {name text : String}
    (h : clean contactLimit ((f.value? name).getD "") = .ok text) :
    IsContactText f name (.string text) := by
  refine ⟨text, rfl, length_clean_le h, fun habsent => ?_⟩
  rw [habsent] at h
  cases h
  rfl

/-- **What a `contactField` that was read asks for**: nothing if all its fields are absent, and
    otherwise all three texts. -/
theorem contactField_eq_ok {f : Form} {field : Option Contact} (h : contactField f = .ok field) :
    (¬ AsksContact f ∧ field = none) ∨
      AsksContact f ∧ ∃ c, field = some c ∧ IsContactText f "contact_name" c.name ∧
        IsContactText f "contact_email" c.email ∧
        IsContactText f "contact_telephone" c.telephone := by
  have hasks : AsksContact f ↔
      ((f.value? "contact_name").isNone && (f.value? "contact_email").isNone &&
        (f.value? "contact_telephone").isNone) = false := by
    simp only [AsksContact, Part.textNames, List.mem_cons, List.not_mem_nil, or_false,
      exists_eq_or_imp, exists_eq_left, ← Option.not_isSome, Bool.and_eq_false_iff,
      Bool.not_eq_false', or_assoc]
  unfold contactField at h
  dsimp only at h
  split at h
  · rename_i habsent
    cases h
    rw [hasks, habsent]
    exact .inl ⟨by decide, rfl⟩
  · rename_i hpresent
    simp only [bind_eq_ok] at h
    obtain ⟨name, hname, email, hemail, telephone, htelephone, h⟩ := h
    cases h
    exact .inr ⟨hasks.2 (Bool.eq_false_iff.2 hpresent), _, rfl, isContactText_clean hname,
      isContactText_clean hemail, isContactText_clean htelephone⟩

/-! ## What a form asks for

  `Asks` says of a form, part by part, whether it sets the part.  It is read off the fields, without
  the functions that apply the form. -/

/-- The parts that the form `f` asks for. -/
def Asks (f : Form) : Part → Prop
  | .dnsSdName => (f.value? "dns_sd_name").isSome
  | .location => (f.value? "location").isSome
  | .organization => (f.value? "organization").isSome
  | .orgUnit => (f.value? "organizational_unit").isSome
  | .geoLocation => AsksLocation f
  | .contact => AsksContact f

theorem isSome_textField_iff {f : Form} {name : String} {limit : Nat} {field : Option Json}
    (h : textField f name limit = .ok field) : field.isSome ↔ (f.value? name).isSome := by
  rcases textField_eq_ok h with ⟨habsent, rfl⟩ | ⟨text, plain, hpresent, -, rfl⟩
  · rw [habsent]
    exact iff_of_false nofun nofun
  · rw [hpresent]
    exact iff_of_true rfl rfl

/-- **What is `submitted` is what the form `Asks` for.** -/
theorem isSome_submitted_iff {f : Form} {c : Change} (h : Change.ofForm f = .ok c) (part : Part) :
    (submitted f part).isSome ↔ Asks f part := by
  obtain ⟨htexts, -, hcontact⟩ := ofForm_eq_ok h
  have hread : ∀ {α : Type} {x : Except Fault (Option α)} {a : Option α}, x = .ok a →
      x.toOption.join = a := by
    rintro α x a rfl
    rfl
  have htext : ∀ p : TextPart, (textField f p.fieldName p.limit).toOption.join.isSome ↔
      (f.value? p.fieldName).isSome := by
    intro p
    rw [hread (htexts p)]
    exact isSome_textField_iff (htexts p)
  cases part with
  | dnsSdName => exact htext .dnsSdName
  | location => exact htext .location
  | organization => exact htext .organization
  | orgUnit => exact htext .orgUnit
  | geoLocation => exact isSome_geoField_iff
  | contact =>
    show (contactField f).toOption.join.isSome ↔ AsksContact f
    rw [hread hcontact]
    rcases contactField_eq_ok hcontact with ⟨hasks, hfield⟩ | ⟨hasks, _, hfield, -⟩
    · rw [hfield]
      exact iff_of_false nofun hasks
    · rw [hfield]
      exact iff_of_true rfl hasks

/-! ## One submission -/

section Applied

variable {f : Form} {i i' : Identity} {written : List Part}

/-- **A text changes only with its field**, and then to what the field may store (`IsStored`). -/
theorem stored_of_applyForm (h : applyForm f i = .ok (i', written)) (p : TextPart) :
    (f.value? p.fieldName = none → p.get i' = p.get i) ∧
      ∀ text, f.value? p.fieldName = some text → IsStored p.limit (p.get i') := by
  obtain ⟨c, hc, h⟩ := bind_eq_ok.1 h
  cases h
  rw [get_apply]
  rcases textField_eq_ok ((ofForm_eq_ok hc).1 p) with ⟨habsent, hasked⟩ |
    ⟨text, plain, hpresent, hplain, hasked⟩
  · rw [hasked, habsent]
    exact ⟨fun _ => rfl, nofun⟩
  · rw [hasked, hpresent]
    exact ⟨nofun, fun _ _ => isStored_clean hplain⟩

theorem location_of_applyForm (h : applyForm f i = .ok (i', written)) :
    i'.geoLocation = (geoField f).getD i.geoLocation := (applyForm_spec h).1 .geoLocation

/-- **A form that does not ask for a location (`AsksLocation`) leaves it.** -/
theorem location_of_not_asks (h : applyForm f i = .ok (i', written)) (hasks : ¬ AsksLocation f) :
    i'.geoLocation = i.geoLocation := by
  rw [← isSome_geoField_iff, Option.not_isSome_iff_eq_none] at hasks
  rw [location_of_applyForm h, hasks, Option.getD_none]

/-- **A contact stays, or all of it is replaced** (`IsContactText`). -/
theorem contact_of_applyForm (h : applyForm f i = .ok (i', written)) :
    (¬ AsksContact f ∧ i'.contact = i.contact) ∨
      AsksContact f ∧ IsContactText f "contact_name" i'.contact.name ∧
        IsContactText f "contact_email" i'.contact.email ∧
        IsContactText f "contact_telephone" i'.contact.telephone := by
  obtain ⟨c, hc, h⟩ := bind_eq_ok.1 h
  cases h
  have hnew : (c.apply i).contact = c.contact.getD i.contact := rfl
  rw [hnew]
  rcases contactField_eq_ok (ofForm_eq_ok hc).2.2 with ⟨hasks, hfield⟩ | ⟨hasks, new, hfield, htexts⟩
  · rw [hfield]
    exact .inl ⟨hasks, rfl⟩
  · rw [hfield]
    exact .inr ⟨hasks, htexts⟩

/-- **The list `written` names what the form asks for**, in the order of the parts, and the rest is
    left. -/
theorem written_of_applyForm (h : applyForm f i = .ok (i', written)) :
    written.Sublist Part.all ∧ (∀ part, part ∈ written ↔ Asks f part) ∧
      ∀ part, part ∉ written → i'.current part = i.current part := by
  obtain ⟨hvalues, hwritten⟩ := applyForm_spec h
  obtain ⟨c, hc, -⟩ := bind_eq_ok.1 h
  have hmem : ∀ part, part ∈ written ↔ Asks f part := by
    intro part
    have hall : part ∈ Part.all := by cases part <;> decide
    rw [hwritten, List.mem_filter, ← isSome_submitted_iff hc, and_iff_right hall]
  refine ⟨hwritten ▸ List.filter_sublist, hmem, fun part hpart => ?_⟩
  rw [hmem, ← isSome_submitted_iff hc, Option.not_isSome_iff_eq_none] at hpart
  rw [hvalues, hpart, Option.getD_none]

end Applied

/-! ## Limits

  No text that is stored is longer than its limit, whatever was submitted and in whatever order. -/

/-- All texts of the identity `i` are within their limits. -/
structure WithinLimits (i : Identity) : Prop where
  texts : ∀ p : TextPart, p.get i = .null ∨
    ∃ text, p.get i = .string text ∧ text.length ≤ p.limit
  contact : ∀ v ∈ [i.contact.name, i.contact.email, i.contact.telephone],
    ∃ text, v = .string text ∧ text.length ≤ contactLimit

/-- **A submission keeps the limits** (`WithinLimits`): what it writes is within them, and what it
    does not write was. -/
theorem WithinLimits.submit {i : Identity} (hi : i.WithinLimits) (f : Form) :
    (i.submit f).WithinLimits := by
  unfold Identity.submit
  split
  · rename_i i' written h
    constructor
    · intro p
      obtain ⟨habsent, hpresent⟩ := stored_of_applyForm h p
      cases hfield : f.value? p.fieldName with
      | none =>
        rw [habsent hfield]
        exact hi.texts p
      | some text =>
        exact (hpresent text hfield).imp_right fun ⟨t, ht, hstored⟩ => ⟨t, ht, hstored.length_le⟩
    · rcases contact_of_applyForm h with ⟨-, hsame⟩ | ⟨-, hname, hemail, htelephone⟩
      · rw [hsame]
        exact hi.contact
      · have hlimit : ∀ {name v}, IsContactText f name v →
            ∃ text, v = .string text ∧ text.length ≤ contactLimit :=
          fun ⟨text, htext, hlength, _⟩ => ⟨text, htext, hlength⟩
        simp only [List.forall_mem_cons, List.not_mem_nil, false_imp_iff, implies_true, and_true]
        exact ⟨hlimit hname, hlimit hemail, hlimit htelephone⟩
  · exact hi

/-- Any number of submissions keep the limits, by `WithinLimits.submit` for each. -/
theorem WithinLimits.foldl_submit {i : Identity} (hi : i.WithinLimits) (forms : List Form) :
    (forms.foldl Identity.submit i).WithinLimits := by
  induction forms generalizing i with
  | nil => exact hi
  | cons f rest ih => exact ih (hi.submit f)

/-! ## The whole form -/

/-- **The fields of the configuration form are treated one by one, in pairs and as a group**, by
    every submission that is taken.

    A text field changes its part if it is present, and then leaves it unset or a text that it may
    store (`IsStored`).  The location changes only if both coordinates are present (`AsksLocation`):
    it is unset if one of them is blank, stays if one of two others is no finite number, and is what
    they say if both are.  The contact is replaced as a whole if one of its fields is present.  The
    list names the parts that the form asks for, each once, and the others are as before.  So the
    limits hold along any run. -/
theorem field_policies {f : Form} {i i' : Identity} {written : List Part}
    (h : applyForm f i = .ok (i', written)) :
    -- the texts
    (∀ p : TextPart, (f.value? p.fieldName = none → p.get i' = p.get i) ∧
      ∀ text, f.value? p.fieldName = some text → IsStored p.limit (p.get i')) ∧
    -- the location
    (f.value? "geo_location_lat" = none ∨ f.value? "geo_location_lon" = none →
      i'.geoLocation = i.geoLocation) ∧
    (∀ lat lon, f.value? "geo_location_lat" = some lat → f.value? "geo_location_lon" = some lon →
      (isBlankText lat = true ∨ isBlankText lon = true → i'.geoLocation = .null) ∧
      (isBlankText lat = false → isBlankText lon = false →
        (¬ IsFiniteNumber lat ∨ ¬ IsFiniteNumber lon → i'.geoLocation = i.geoLocation) ∧
        ∀ x y, readDecimal lat.toList = some x → readDecimal lon.toList = some y →
          x.isFinite = true → y.isFinite = true → i'.geoLocation = .string (geoUri x y))) ∧
    -- the contact
    (¬ AsksContact f → i'.contact = i.contact) ∧
    (AsksContact f → IsContactText f "contact_name" i'.contact.name ∧
      IsContactText f "contact_email" i'.contact.email ∧
      IsContactText f "contact_telephone" i'.contact.telephone) ∧
    -- the list
    written.Sublist Part.all ∧ (∀ part, part ∈ written ↔ Asks f part) ∧
    (∀ part, part ∉ written → i'.current part = i.current part) ∧
    -- runs
    ∀ (start : Identity) (forms : List Form), start.WithinLimits →
      (forms.foldl submit start).WithinLimits := by
  refine ⟨stored_of_applyForm h, ?_, fun lat lon hlat hlon => ?_, ?_, ?_,
    (written_of_applyForm h).1, (written_of_applyForm h).2.1, (written_of_applyForm h).2.2,
    fun _ forms hstart => hstart.foldl_submit forms⟩
  · intro habsent
    refine location_of_not_asks h fun ⟨lat, lon, hlat, hlon, _⟩ => ?_
    rcases habsent with habsent | habsent
    · cases hlat.symm.trans habsent
    · cases hlon.symm.trans habsent
  · constructor
    · intro hblank
      rw [location_of_applyForm h, geoField_present hlat hlon, if_pos (Bool.or_eq_true _ _ ▸ hblank),
        Option.getD_some]
    · intro hlatText hlonText
      constructor
      · intro hnumber
        -- neither field is blank, so the location is asked for by finite numbers only
        rw [← not_and_or] at hnumber
        refine location_of_not_asks h fun hasks => ?_
        rw [asksLocation_iff hlat hlon, hlatText, hlonText] at hasks
        exact hnumber ((hasks.resolve_left nofun).resolve_left nofun)
      · intro x y hx hy hxFinite hyFinite
        rw [location_of_applyForm h, geoField_present hlat hlon, hlatText, hlonText,
          finiteNumber_eq_some_iff.2 ⟨hx, hxFinite⟩, finiteNumber_eq_some_iff.2 ⟨hy, hyFinite⟩]
        rfl
  · intro hasks
    rcases contact_of_applyForm h with ⟨-, hsame⟩ | ⟨hasked, -⟩
    · exact hsame
    · exact absurd hasked hasks
  · intro hasks
    rcases contact_of_applyForm h with ⟨hnot, -⟩ | ⟨-, htexts⟩
    · exact absurd hasks hnot
    · exact htexts

/-- A new name, half a location and one text of the contact, submitted to a printer in the hall: the
    name and the contact change, and the printer stays where it is. -/
theorem field_policies_front_desk :
    let i : Identity := { ofName "Hall" with
      location := .string "Hall"
      geoLocation := .string "geo:1,2"
      contact := ⟨.string "Ann", .string "ann@hall", .string "1"⟩ }
    let f : Form := ⟨[("dns_sd_name", some "  Front <b>Desk</b> "), ("geo_location_lat", some "91.5"),
      ("geo_location_lon", some "east"), ("contact_email", some "desk@hall")]⟩
    ∃ i' written, applyForm f i = .ok (i', written) ∧ IsStored nameLimit i'.dnsSdName ∧
      i'.location = .string "Hall" ∧ i'.geoLocation = .string "geo:1,2" ∧
      IsContactText f "contact_name" i'.contact.name ∧ f.value? "contact_name" = none ∧
      Part.contact ∈ written ∧ Part.geoLocation ∉ written := by
  intro i f
  have hname : f.value? "dns_sd_name" = some "  Front <b>Desk</b> " := by decide
  have hlat : f.value? "geo_location_lat" = some "91.5" := by decide
  have hlon : f.value? "geo_location_lon" = some "east" := by decide
  have heast : ¬ IsFiniteNumber "east" := finiteNumber_eq_none_iff.1 (by decide +kernel)
  have hcontact : AsksContact f := ⟨"contact_email", by decide, by decide⟩
  obtain ⟨⟨i', written⟩, h⟩ : ∃ r, applyForm f i = .ok r := exists_eq_ok (by decide +kernel)
  obtain ⟨htexts, -, hgeo, -, hnew, -, hmem, -, -⟩ := field_policies h
  refine ⟨i', written, h, (htexts .dnsSdName).2 _ hname, (htexts .location).1 (by decide),
    ((hgeo _ _ hlat hlon).2 (by decide) (by decide)).1 (.inr heast), (hnew hcontact).1, by decide,
    (hmem .contact).2 hcontact, fun hlisted => ?_⟩
  have hasks := (asksLocation_iff hlat hlon).1 ((hmem .geoLocation).1 hlisted)
  rcases hasks with hblank | hblank | hnumbers
  · exact absurd hblank (by decide)
  · exact absurd hblank (by decide)
  · exact heast hnumbers.2

end Identity

end PrinterConsole
