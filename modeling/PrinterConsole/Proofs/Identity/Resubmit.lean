/-
  Sending the configuration form back as it is shown.

  The page shows each text as it is stored, and the two coordinates of the location; sending them
  back cleans the texts once more and reads the coordinates once more.  So the identity stays
  exactly if cleaning leaves each stored text as it is (`IsClean`), and the coordinates are read
  as numbers of the same text (`Binary64.Settled`).

  What was cleaned once need not be clean: it was trimmed before it was cut to its limit, so the
  cut may leave a blank at its end, and its references were read after its markup was dropped, so
  they may have left markup or another reference.

  `IsSubmitted` is what every run of submissions leaves, and it is enough to send the form back:
  each part has a lemma that says what sending it back comes to (`textField_shown`,
  `contactField_shown`, `exists_coordinates`), and `IsSubmitted.resubmit` puts them together.
  That `shownForm` is what the page shows is not taken for granted either: the page has an input
  for each of its fields (`hasInput_of_mem_shownForm`).

  Main statements: what submissions leave (`isSubmitted_submitAll`), and when sending the form
  back changes nothing (`resubmit_shown_iff`).
-/
import PrinterConsole.Page.Config
import PrinterConsole.Proofs.Fault
import PrinterConsole.Proofs.Form.SixDigits
import PrinterConsole.Proofs.Markup.Clean
import PrinterConsole.Proofs.State.Forms

namespace PrinterConsole

/-! ## Inputs of a page

  The page is a text, and that it has an input of some name and value is said of that text
  (`HasInput`). -/

namespace Page

/-- Somewhere on the page `p` is an input of that `name`, with that `content`. -/
def HasInput (p : Page) (name : String) (content : Page) : Prop :=
  ∃ type attributes before after,
    p.pieces = before ++ (input type name attributes content).pieces ++ after

namespace HasInput

variable {p q content : Page} {name : String}

theorem left (h : p.HasInput name content) : (p ++ q).HasInput name content := by
  obtain ⟨type, attributes, before, after, h⟩ := h
  refine ⟨type, attributes, before, after ++ q.pieces, ?_⟩
  show p.pieces ++ q.pieces = _
  rw [h, List.append_assoc]

theorem right (h : q.HasInput name content) : (p ++ q).HasInput name content := by
  obtain ⟨type, attributes, before, after, h⟩ := h
  refine ⟨type, attributes, p.pieces ++ before, after, ?_⟩
  show p.pieces ++ q.pieces = _
  rw [h, List.append_assoc, List.append_assoc, List.append_assoc]

theorem last (type attributes : String) :
    (p ++ input type name attributes content).HasInput name content :=
  ⟨type, attributes, p.pieces, [], (List.append_nil _).symm⟩

end HasInput

end Page

namespace Identity

open PrinterConsole.Markup PrinterConsole.Number PrinterConsole.Text

/-! ## Submissions

  Whatever is submitted, each part of an identity is unset or was written by a form; `IsSubmitted`
  says so part by part, and it is what a run of submissions preserves. -/

/-- The identity after a submission of the form `f`; one with a fault changes nothing. -/
def submit (i : Identity) (f : Form) : Identity :=
  match applyForm f i with
  | .ok (changed, _) => changed
  | .error _ => i

/-- The identity after the submissions `forms`, starting from one without any setting. -/
def submitAll (forms : List Form) : Identity := forms.foldl submit {}

/-- A field that was submitted: unset, or a text within its `limit` that is not empty. -/
def IsSubmittedText (limit : Nat) (v : Json) : Prop :=
  v = .null ∨ ∃ text, v = .string text ∧ text ≠ "" ∧ text.length ≤ limit

/-- A contact that was submitted is made of texts within `contactLimit`, which may be empty. -/
def IsSubmittedContact (c : Contact) : Prop :=
  ∀ v ∈ [c.name, c.email, c.telephone], ∃ text, v = .string text ∧ text.length ≤ contactLimit

/-- A location that was submitted: unset, or the `geoUri` of two finite coordinates. -/
def IsSubmittedLocation (v : Json) : Prop :=
  v = .null ∨ ∃ x y : Binary64, x.isFinite = true ∧ y.isFinite = true ∧ v = .string (geoUri x y)

/-- The identity `i` was submitted, part by part. -/
structure IsSubmitted (i : Identity) : Prop where
  dnsSdName : IsSubmittedText nameLimit i.dnsSdName
  location : IsSubmittedText textLimit i.location
  geoLocation : IsSubmittedLocation i.geoLocation
  organization : IsSubmittedText textLimit i.organization
  orgUnit : IsSubmittedText textLimit i.orgUnit
  contact : IsSubmittedContact i.contact

/-- An identity with nothing set is the start of every run of submissions. -/
theorem isSubmitted_unset : IsSubmitted {} where
  dnsSdName := .inl rfl
  location := .inl rfl
  geoLocation := .inl rfl
  organization := .inl rfl
  orgUnit := .inl rfl
  contact := by
    intro v hv
    simp only [List.mem_cons, List.not_mem_nil, or_false, or_self] at hv
    exact ⟨"", hv, Nat.zero_le _⟩

/-- What a text field asks for is a text that was submitted, within its limit
    (`length_clean_le`). -/
theorem isSubmittedText_textField {f : Form} {name : String} {limit : Nat} {field : Option Json}
    (h : textField f name limit = .ok field) : ∀ v ∈ field, IsSubmittedText limit v := by
  unfold textField at h
  split at h
  · cases h
    simp
  · cases h
  · obtain ⟨plain, hplain, h⟩ := bind_eq_ok.1 h
    cases h
    rintro v ⟨⟩
    split
    · exact .inl rfl
    · rename_i hne
      exact .inr ⟨plain, rfl, fun heq => hne (by rw [heq]; rfl), length_clean_le hplain⟩

/-- What `Form.finiteNumber` gives is finite, as its name says. -/
theorem isFinite_of_finiteNumber {text : String} {x : Binary64}
    (h : Form.finiteNumber text = some x) : x.isFinite = true := by
  obtain ⟨y, -, hy⟩ := Option.bind_eq_some_iff.1 h
  unfold Binary64.finite? at hy
  split at hy
  · cases hy
    assumption
  · cases hy

/-- What `geoField` asks for is a location that was submitted. -/
theorem isSubmittedLocation_geoField (f : Form) : ∀ v ∈ geoField f, IsSubmittedLocation v := by
  intro v hv
  unfold geoField at hv
  split at hv
  · split at hv
    · cases hv
      exact .inl rfl
    · split at hv
      · rename_i x y hx hy
        cases hv
        exact .inr ⟨x, y, isFinite_of_finiteNumber hx, isFinite_of_finiteNumber hy, rfl⟩
      · cases hv
  · cases hv

/-- What `contactField` asks for is a contact that was submitted. -/
theorem isSubmittedContact_contactField {f : Form} {field : Option Contact}
    (h : contactField f = .ok field) : ∀ c ∈ field, IsSubmittedContact c := by
  unfold contactField at h
  dsimp only at h
  split at h
  · cases h
    simp
  · simp only [bind_eq_ok] at h
    obtain ⟨name, hname, email, hemail, telephone, htelephone, h⟩ := h
    cases h
    rintro c ⟨⟩ v hv
    simp only [List.mem_cons, List.not_mem_nil, or_false] at hv
    rcases hv with rfl | rfl | rfl
    · exact ⟨name, rfl, length_clean_le hname⟩
    · exact ⟨email, rfl, length_clean_le hemail⟩
    · exact ⟨telephone, rfl, length_clean_le htelephone⟩

/-- **A submission leaves an identity that was submitted** (`IsSubmitted`): each part is as before
    or as its field asks. -/
theorem IsSubmitted.submit {i : Identity} (hi : i.IsSubmitted) (f : Form) :
    (i.submit f).IsSubmitted := by
  unfold Identity.submit
  split
  · rename_i changed written h
    obtain ⟨c, hc, h⟩ := bind_eq_ok.1 h
    cases h
    simp only [Change.ofForm, bind_eq_ok] at hc
    obtain ⟨name, hname, location, hlocation, organization, horganization, unit, hunit, contact,
      hcontact, hc⟩ := hc
    cases hc
    exact {
      dnsSdName := getD_of_forall hi.dnsSdName (isSubmittedText_textField hname)
      location := getD_of_forall hi.location (isSubmittedText_textField hlocation)
      geoLocation := getD_of_forall hi.geoLocation (isSubmittedLocation_geoField f)
      organization := getD_of_forall hi.organization (isSubmittedText_textField horganization)
      orgUnit := getD_of_forall hi.orgUnit (isSubmittedText_textField hunit)
      contact := getD_of_forall hi.contact (isSubmittedContact_contactField hcontact) }
  · exact hi

/-- **What submissions leave** is an identity that was submitted: `IsSubmitted.submit` along the
    run. -/
theorem isSubmitted_submitAll (forms : List Form) : (submitAll forms).IsSubmitted := by
  suffices h : ∀ i : Identity, i.IsSubmitted → (forms.foldl submit i).IsSubmitted from
    h {} isSubmitted_unset
  induction forms with
  | nil => exact fun i hi => hi
  | cons f rest ih => exact fun i hi => ih (i.submit f) (hi.submit f)

/-! ## The form as it is shown

  What a browser would send back is the list of the inputs with the values they are shown with. -/

/-- The text of the field `v` as the page shows it. -/
def fieldText (v : Json) : String := if v.truthy then v.shown else ""

/-- The form of the identity `i` as the page shows it, with its `coordinates`. -/
def shownForm (i : Identity) (coordinates : String × String) : Form := ⟨[
  ("dns_sd_name", some (fieldText i.dnsSdName)),
  ("location", some (fieldText i.location)),
  ("geo_location_lat", some coordinates.1),
  ("geo_location_lon", some coordinates.2),
  ("organization", some (fieldText i.organization)),
  ("organizational_unit", some (fieldText i.orgUnit)),
  ("contact_name", some i.contact.name.shown),
  ("contact_email", some i.contact.email.shown),
  ("contact_telephone", some i.contact.telephone.shown)]⟩

def shownTexts (i : Identity) : List String := [
  fieldText i.dnsSdName, fieldText i.location, fieldText i.organization, fieldText i.orgUnit,
  i.contact.name.shown, i.contact.email.shown, i.contact.telephone.shown]

/-- What the page writes for a field is the value of `fieldText`. -/
theorem fieldValue_eq (v : Json) : Page.fieldValue v = Page.value (fieldText v) := by
  unfold Page.fieldValue fieldText
  split <;> rfl

/-- **The page has an input for each field of the form**, with its text.  One case for each of the
    nine fields; where it stands on the page is found by `HasInput.left` and `HasInput.right`. -/
theorem hasInput_of_mem_shownForm (site : Web.Site) (i : Identity) (shown : String × String)
    {name text : String} (h : (name, some text) ∈ (i.shownForm shown).fields) :
    (Page.configContent site i shown).HasInput name (Page.value text) := by
  have hidentity : (Page.identityRows i shown).HasInput name (Page.value text) →
      (Page.configContent site i shown).HasInput name (Page.value text) :=
    fun h => .left (.left (.left (.right h)))
  have hcontact : (Page.contactRows i.contact).HasInput name (Page.value text) →
      (Page.configContent site i shown).HasInput name (Page.value text) :=
    fun h => .left (.left (.right h))
  simp only [shownForm, List.mem_cons, Prod.mk.injEq, Option.some.injEq, List.not_mem_nil,
    or_false] at h
  -- what stands behind an input in its rows is passed over
  rcases h with ⟨rfl, rfl⟩ | ⟨rfl, rfl⟩ | ⟨rfl, rfl⟩ | ⟨rfl, rfl⟩ | ⟨rfl, rfl⟩ | ⟨rfl, rfl⟩ |
    ⟨rfl, rfl⟩ | ⟨rfl, rfl⟩ | ⟨rfl, rfl⟩
  · refine hidentity ?_
    rw [← fieldValue_eq]
    unfold Page.identityRows
    iterate 13 refine .left ?_
    exact .last _ _
  · refine hidentity ?_
    rw [← fieldValue_eq]
    unfold Page.identityRows
    iterate 10 refine .left ?_
    exact .last _ _
  · refine hidentity ?_
    unfold Page.identityRows
    iterate 8 refine .left ?_
    exact .last _ _
  · refine hidentity ?_
    unfold Page.identityRows
    iterate 6 refine .left ?_
    exact .last _ _
  · refine hidentity ?_
    rw [← fieldValue_eq]
    unfold Page.identityRows
    iterate 3 refine .left ?_
    exact .last _ _
  · refine hidentity ?_
    rw [← fieldValue_eq]
    exact .left (.last _ _)
  · refine hcontact ?_
    unfold Page.contactRows
    iterate 5 refine .left ?_
    exact .last _ _
  · refine hcontact ?_
    unfold Page.contactRows
    iterate 3 refine .left ?_
    exact .last _ _
  · exact hcontact (.left (.last _ _))

/-! ## Sending it back

  A text that is sent back is cleaned once more and cut.  It is short enough already, so it comes
  back exactly if it is clean (`IsClean`). -/

theorem limits_le : nameLimit ≤ maxDigits ∧ textLimit ≤ maxDigits ∧ contactLimit ≤ maxDigits := by
  decide

theorem fieldText_string {text : String} (hne : text ≠ "") : fieldText (.string text) = text := by
  have htruthy : (Json.string text).truthy = true := by
    rw [Json.truthy, Bool.not_eq_true', ← Bool.not_eq_true, String.isEmpty_iff]
    exact hne
  rw [fieldText, if_pos htruthy]
  rfl

theorem isClean_nil : IsClean [] := isClean_of_plain rfl (List.forall_mem_nil _)

/-- **A text that is sent back** is cleaned, and stays as it was exactly if it is clean
    (`IsClean`). -/
theorem textField_shown (f : Form) (name : String) {limit : Nat} {v : Json}
    (hf : f.field? name = some (some (fieldText v))) (hv : IsSubmittedText limit v)
    (hlimit : limit ≤ maxDigits) :
    ∃ w, textField f name limit = .ok (some w) ∧ (w = v ↔ IsClean (fieldText v).toList) := by
  rcases hv with rfl | ⟨text, rfl, hne, hlength⟩
  · refine ⟨.null, ?_, iff_of_true rfl isClean_nil⟩
    rw [textField, hf]
    rfl
  · rw [fieldText_string hne] at hf ⊢
    obtain ⟨plain, hplain⟩ := exists_clean limit (hlength.trans hlimit)
    refine ⟨if plain.isEmpty then .null else .string plain, ?_, ?_⟩
    · rw [textField, hf]
      dsimp only
      rw [hplain]
      rfl
    · rw [← clean_eq_self_iff hlength (hlength.trans hlimit), hplain, Except.ok.injEq]
      constructor
      · intro h
        split at h
        · cases h
        · exact Json.string.inj h
      · rintro rfl
        rw [if_neg fun hempty => hne (String.isEmpty_iff.1 hempty)]

/-- A part of the contact is shown as a text, which comes back exactly if it is clean
    (`IsClean`). -/
theorem clean_shown {v : Json} (hv : ∃ text, v = .string text ∧ text.length ≤ contactLimit) :
    ∃ plain, clean contactLimit v.shown = .ok plain ∧
      (Json.string plain = v ↔ IsClean v.shown.toList) := by
  obtain ⟨text, rfl, hlength⟩ := hv
  have hmax := hlength.trans limits_le.2.2
  obtain ⟨plain, hplain⟩ := exists_clean contactLimit hmax
  refine ⟨plain, hplain, ?_⟩
  show Json.string plain = .string text ↔ IsClean text.toList
  rw [← clean_eq_self_iff hlength hmax, hplain, Except.ok.injEq, Json.string.injEq]

/-- **A contact that is sent back** is cleaned, and stays as it was exactly if its texts are clean
    (`IsClean`). -/
theorem contactField_shown {f : Form} {c : Contact} (hc : IsSubmittedContact c)
    (hname : f.value? "contact_name" = some c.name.shown)
    (hemail : f.value? "contact_email" = some c.email.shown)
    (htelephone : f.value? "contact_telephone" = some c.telephone.shown) :
    ∃ c', contactField f = .ok (some c') ∧
      (c' = c ↔ IsClean c.name.shown.toList ∧ IsClean c.email.shown.toList ∧
        IsClean c.telephone.shown.toList) := by
  obtain ⟨name, hn, hname'⟩ := clean_shown (hc c.name (by simp))
  obtain ⟨email, he, hemail'⟩ := clean_shown (hc c.email (by simp))
  obtain ⟨telephone, ht, htelephone'⟩ := clean_shown (hc c.telephone (by simp))
  refine ⟨⟨.string name, .string email, .string telephone⟩, ?_, ?_⟩
  · rw [contactField, hname, hemail, htelephone]
    simp only [Option.isNone_some, Bool.and_self, Bool.false_eq_true, if_false, Option.getD_some,
      hn, he, ht, ok_bind]
    rfl
  · rw [← hname', ← hemail', ← htelephone']
    cases c
    exact iff_of_eq (Contact.mk.injEq ..)

/-! ## Locations

  A location is shown as two numbers of six digits, which are taken from the text that was stored.
  They come back if each of them is read as a number that is written in the same way
  (`Binary64.Settled`). -/

/-- What stands in the way of taking a location apart is in no text of a coordinate
    (`generalText`). -/
theorem notMem_generalText {x : Binary64} (hx : x.isFinite = true) {c : Char}
    (hc : isNumeralChar c = false) : c ∉ x.generalText.toList := by
  intro hmem
  rw [(Binary64.numeralChars_generalText hx).2 c hmem] at hc
  cases hc

theorem toList_geoUri (x y : Binary64) :
    (geoUri x y).toList =
      "geo:".toList ++ (x.generalText.toList ++ ',' :: y.generalText.toList) := by
  rw [geoUri, String.toList_append, String.toList_append, String.toList_append, List.append_assoc,
    List.append_assoc]
  rfl

/-- **The coordinates of a location** are the texts it was made of, since neither has a comma or a
    semicolon (`notMem_generalText`). -/
theorem coordinatesOf_geoUri {x y : Binary64} (hx : x.isFinite = true) (hy : y.isFinite = true) :
    coordinatesOf (geoUri x y) = (x.generalText, y.generalText) := by
  have hstart : startsWith "geo:" (geoUri x y) = true :=
    startsWith_iff.2 ⟨_, toList_geoUri x y⟩
  have hdrop : (geoUri x y).toList.drop 4 =
      x.generalText.toList ++ ',' :: y.generalText.toList := by
    rw [toList_geoUri]
    rfl
  have htake : (x.generalText.toList ++ ',' :: y.generalText.toList).takeWhile (· != ';') =
      x.generalText.toList ++ ',' :: y.generalText.toList := by
    refine List.takeWhile_eq_self_iff.2 fun c hc => ?_
    rw [bne_iff_ne]
    rintro rfl
    rcases List.mem_append.1 hc with hc | hc
    · exact notMem_generalText hx (by decide) hc
    · exact notMem_generalText hy (by decide) (List.mem_of_ne_of_mem (by decide) hc)
  have hsplit : splitOn ',' (x.generalText.toList ++ ',' :: y.generalText.toList) =
      [x.generalText.toList, y.generalText.toList] := by
    rw [splitOn_append (notMem_generalText hx (by decide)),
      splitOn_of_notMem (notMem_generalText hy (by decide))]
  unfold coordinatesOf
  rw [hstart, hdrop, htake, hsplit]
  simp only [Bool.not_true, Bool.false_eq_true, if_false, String.ofList_toList]

/-- The `coordinates` of a stored location can be shown. -/
theorem coordinates_geoUri {x y : Binary64} (hx : x.isFinite = true) (hy : y.isFinite = true) :
    coordinates (.string (geoUri x y)) = .ok (x.generalText, y.generalText) := by
  have htruthy : (Json.string (geoUri x y)).truthy = true := by
    rw [Json.truthy, Bool.not_eq_true', ← Bool.not_eq_true, String.isEmpty_iff, ← String.toList_inj,
      toList_geoUri]
    exact List.cons_ne_nil _ _
  rw [coordinates, htruthy, ← coordinatesOf_geoUri hx hy]
  rfl

theorem isBlankText_generalText {x : Binary64} (hx : x.isFinite = true) :
    isBlankText x.generalText = false := by
  obtain ⟨hne, hchars⟩ := Binary64.numeralChars_generalText hx
  obtain ⟨c, rest, hc⟩ := List.exists_cons_of_ne_nil hne
  rw [hc] at hchars
  rw [isBlankText, hc, List.all_cons, isBlank_of_numeralChar (hchars c List.mem_cons_self)]
  rfl

/-- **A location that is sent back** is read again, and stays as it was exactly if its coordinates
    are read as numbers of the same text (`Settled`). -/
theorem geoField_shown {f : Form} {x y : Binary64} (hx : x.isFinite = true)
    (hy : y.isFinite = true) (hlat : f.value? "geo_location_lat" = some x.generalText)
    (hlon : f.value? "geo_location_lon" = some y.generalText) :
    ∃ v, geoField f = some v ∧ (v = .string (geoUri x y) ↔
      Binary64.Settled x.generalText ∧ Binary64.Settled y.generalText) := by
  obtain ⟨x', hread, hx'⟩ := Binary64.exists_finiteNumber_generalText hx
  obtain ⟨y', hread', hy'⟩ := Binary64.exists_finiteNumber_generalText hy
  refine ⟨.string (geoUri x' y'), ?_, ?_⟩
  · rw [geoField, hlat, hlon]
    simp only [isBlankText_generalText hx, isBlankText_generalText hy, Bool.or_self,
      Bool.false_eq_true, if_false, hread, hread']
  · rw [Binary64.Settled, Binary64.Settled, hread, hread', Option.map_some, Option.map_some,
      Option.some.injEq, Option.some.injEq, Json.string.injEq]
    constructor
    · intro h
      have hcoordinates := congrArg coordinatesOf h
      rw [coordinatesOf_geoUri hx' hy', coordinatesOf_geoUri hx hy, Prod.mk.injEq] at hcoordinates
      exact hcoordinates
    · rintro ⟨hsame, hsame'⟩
      rw [geoUri, hsame, hsame']
      rfl

/-- A location that was submitted has `coordinates`, and a form that shows them gives a location
    again. -/
theorem exists_coordinates {v : Json} (hv : IsSubmittedLocation v) :
    ∃ shown, coordinates v = .ok shown ∧
      ∀ f : Form, f.value? "geo_location_lat" = some shown.1 →
        f.value? "geo_location_lon" = some shown.2 → ∃ w, geoField f = some w ∧
          (w = v ↔ (v ≠ .null → Binary64.Settled shown.1 ∧ Binary64.Settled shown.2)) := by
  rcases hv with rfl | ⟨x, y, hx, hy, rfl⟩
  · refine ⟨("", ""), rfl, fun f hlat hlon => ⟨.null, ?_, iff_of_true rfl (absurd rfl)⟩⟩
    rw [geoField, hlat, hlon]
    rfl
  · refine ⟨(x.generalText, y.generalText), coordinates_geoUri hx hy, fun f hlat hlon => ?_⟩
    obtain ⟨w, hw, hsame⟩ := geoField_shown hx hy hlat hlon
    exact ⟨w, hw, hsame.trans ⟨fun h _ => h, fun h => h Json.noConfusion⟩⟩

/-! ## The whole form

  Part by part, and then as a run.  The counterexample is a name cut so that a blank is its last
  character. -/

/-- Every `Part` of an identity, in the order in which they are written. -/
def allParts : List Part := [.dnsSdName, .location, .organization, .orgUnit, .geoLocation, .contact]

/-- **The form of an identity that was submitted** can be sent back, and changes nothing exactly if
    the texts are clean and the coordinates `Settled`. -/
theorem IsSubmitted.resubmit {i : Identity} (hi : i.IsSubmitted) :
    ∃ shown changed, coordinates i.geoLocation = .ok shown ∧
      applyForm (i.shownForm shown) i = .ok (changed, allParts) ∧
      (changed = i ↔ (∀ text ∈ i.shownTexts, IsClean text.toList) ∧
        (i.geoLocation ≠ .null → Binary64.Settled shown.1 ∧ Binary64.Settled shown.2)) := by
  obtain ⟨hnameLimit, htextLimit, -⟩ := limits_le
  obtain ⟨shown, hshown, hgeo⟩ := exists_coordinates hi.geoLocation
  obtain ⟨location', hlocation', hlocationSame⟩ := hgeo (i.shownForm shown) rfl rfl
  obtain ⟨name, hname, hnameSame⟩ :=
    textField_shown (i.shownForm shown) "dns_sd_name" rfl hi.dnsSdName hnameLimit
  obtain ⟨place, hplace, hplaceSame⟩ :=
    textField_shown (i.shownForm shown) "location" rfl hi.location htextLimit
  obtain ⟨organization, horganization, horganizationSame⟩ :=
    textField_shown (i.shownForm shown) "organization" rfl hi.organization htextLimit
  obtain ⟨unit, hunit, hunitSame⟩ :=
    textField_shown (i.shownForm shown) "organizational_unit" rfl hi.orgUnit htextLimit
  obtain ⟨contact, hcontact, hcontactSame⟩ :=
    contactField_shown (f := i.shownForm shown) hi.contact rfl rfl rfl
  have hchange : Change.ofForm (i.shownForm shown) =
      .ok ⟨some name, some place, some organization, some unit, some location', some contact⟩ := by
    rw [Change.ofForm, hname, hplace, horganization, hunit, hcontact, hlocation']
    rfl
  -- every field is submitted, so nothing of `i` is left in what comes out
  refine ⟨shown, ⟨name, place, location', organization, unit, contact⟩, hshown, ?_, ?_⟩
  · rw [applyForm, hchange]
    rfl
  · have hparts : (⟨name, place, location', organization, unit, contact⟩ : Identity) = i ↔
        name = i.dnsSdName ∧ place = i.location ∧ location' = i.geoLocation ∧
          organization = i.organization ∧ unit = i.orgUnit ∧ contact = i.contact := by
      cases i
      exact iff_of_eq (Identity.mk.injEq ..)
    rw [hparts, hnameSame, hplaceSame, hlocationSame, horganizationSame, hunitSame, hcontactSame]
    simp only [shownTexts, List.forall_mem_cons, List.not_mem_nil, false_imp_iff, implies_true,
      and_true]
    constructor
    · rintro ⟨hname, hplace, hgeo, horganization, hunit, hcontact⟩
      exact ⟨⟨hname, hplace, horganization, hunit, hcontact⟩, hgeo⟩
    · rintro ⟨⟨hname, hplace, horganization, hunit, hcontact⟩, hgeo⟩
      exact ⟨hname, hplace, hgeo, horganization, hunit, hcontact⟩

/-- **Sending the form back changes nothing exactly if** every stored text is clean and the
    coordinates are read as numbers of the same text; and that they are if the location was made
    from numbers with all their bits.  What is sent back is what the page shows: `configContent` has
    an input for each field of `shownForm`, with its text. -/
theorem resubmit_shown_iff (forms : List Form) :
    ∃ shown changed, coordinates (submitAll forms).geoLocation = .ok shown ∧
      (∀ (site : Web.Site) (name text : String),
        (name, some text) ∈ ((submitAll forms).shownForm shown).fields →
          (Page.configContent site (submitAll forms) shown).HasInput name (Page.value text)) ∧
      applyForm ((submitAll forms).shownForm shown) (submitAll forms) = .ok (changed, allParts) ∧
      (changed = submitAll forms ↔ (∀ text ∈ (submitAll forms).shownTexts, IsClean text.toList) ∧
        ((submitAll forms).geoLocation ≠ .null →
          Binary64.Settled shown.1 ∧ Binary64.Settled shown.2)) ∧
      ∀ x y : Binary64, x.isFull = true → y.isFull = true →
        (submitAll forms).geoLocation = .string (geoUri x y) →
          Binary64.Settled shown.1 ∧ Binary64.Settled shown.2 := by
  obtain ⟨shown, changed, hshown, happly, hsame⟩ := (isSubmitted_submitAll forms).resubmit
  refine ⟨shown, changed, hshown, fun site _ _ => hasInput_of_mem_shownForm site _ shown, happly,
    hsame, fun x y hx hy hgeo => ?_⟩
  have hcoordinates :=
    coordinates_geoUri (Binary64.isFinite_of_full hx) (Binary64.isFinite_of_full hy)
  rw [hgeo, hcoordinates] at hshown
  cases hshown
  exact ⟨Binary64.settled_of_full hx, Binary64.settled_of_full hy⟩

/-- A name of which the cut leaves a blank at the end. -/
def longName : String := "xxxxxxxxxxxxxxxxxxxxxxxxxxxxxxxxxxxxxxxxxxxxxxxxxxxxxxxxxxxxxx yz"

/-- `longName`, cut at its limit. -/
def cutName : String := "xxxxxxxxxxxxxxxxxxxxxxxxxxxxxxxxxxxxxxxxxxxxxxxxxxxxxxxxxxxxxx "

/-- `cutName`, trimmed. -/
def trimmedName : String := "xxxxxxxxxxxxxxxxxxxxxxxxxxxxxxxxxxxxxxxxxxxxxxxxxxxxxxxxxxxxxx"

theorem clean_longName : clean nameLimit longName = .ok cutName :=
  eq_ok_of_toOption (by decide +kernel)

theorem clean_cutName : clean nameLimit cutName = .ok trimmedName :=
  eq_ok_of_toOption (by decide +kernel)

/-- `longName`, submitted, is stored with a blank at its end. -/
theorem submitAll_longName : submitAll [⟨[("dns_sd_name", some longName)]⟩] = ofName cutName := by
  have hname : textField ⟨[("dns_sd_name", some longName)]⟩ "dns_sd_name" nameLimit =
      .ok (some (.string cutName)) := by
    show (clean nameLimit longName >>= _) = _
    rw [clean_longName]
    rfl
  rw [submitAll, List.foldl_cons, List.foldl_nil, submit, applyForm, Change.ofForm, hname]
  rfl

/-- The stored name has a blank at its end, and the form that shows it loses that blank. -/
theorem applyForm_cutName :
    applyForm ((ofName cutName).shownForm ("", "")) (ofName cutName) =
      .ok (ofName trimmedName, allParts) := by
  have hname : textField ((ofName cutName).shownForm ("", "")) "dns_sd_name" nameLimit =
      .ok (some (.string trimmedName)) := by
    show (clean nameLimit cutName >>= _) = _
    rw [clean_cutName]
    rfl
  rw [applyForm, Change.ofForm, hname]
  rfl

/-- Sending the form back may change what submissions left: `longName` is one example. -/
theorem not_forall_resubmit_shown :
    ¬ ∀ (forms : List Form) (shown : String × String) (changed : Identity) (written : List Part),
      coordinates (submitAll forms).geoLocation = .ok shown →
      applyForm ((submitAll forms).shownForm shown) (submitAll forms) = .ok (changed, written) →
        changed = submitAll forms := by
  intro h
  have hsame := h [⟨[("dns_sd_name", some longName)]⟩] ("", "") (ofName trimmedName) allParts
  rw [submitAll_longName] at hsame
  have hnames := congrArg Identity.dnsSdName (hsame rfl applyForm_cutName)
  exact absurd (Json.string.inj hnames) (by decide)

end Identity

end PrinterConsole
