/-
  What can be written stays so if texts are short.

  A printer can be saved if every whole number in its record can be written (`isWritable`).  A
  submission puts new numbers in: those it reads from texts, products of them with a scale, and
  codes.  All of them are below a power of ten for each character of a text, and four more; so
  from texts that are four characters shorter than the longest numeral (`Form.IsShort`), whatever
  is made of a printer that can be written can be written.

  The forms change defaults and ready media; what they leave alone is the same record with blanks
  in these places (`DriverOptions.blank`), so what holds of that part is carried over at once.

  Main statement: a submission of short texts keeps a printer writable
  (`Printer.writable_applied`).
-/
import PrinterConsole.Proofs.Driver.LongNumeral
import PrinterConsole.Proofs.Driver.MediaBounds
import PrinterConsole.Proofs.Driver.MediaGroups
import PrinterConsole.Proofs.Identity.PartialUpdate
import PrinterConsole.Proofs.Identity.Resubmit
import PrinterConsole.Proofs.State.Restart

namespace PrinterConsole

open PrinterConsole.Number

/-! ## Short texts

  What can be written has at most `maxDigits` digits.  A number that is read from a text and scaled
  gains four of them at most, so texts that are shorter by four are safe. -/

namespace Form

/-- Every text of the form `f` is at least four characters shorter than the longest numeral. -/
def IsShort (f : Form) : Prop := ∀ x ∈ f.fields, ∀ text ∈ x.2, text.length + 4 ≤ maxDigits

theorem IsShort.value? {f : Form} (hf : f.IsShort) {name text : String}
    (h : f.value? name = some text) : text.length + 4 ≤ maxDigits := by
  unfold Form.value? at h
  rw [Option.join_eq_some_iff] at h
  exact hf _ (mem_of_field? h) text rfl

end Form

/-! ## Records that can be written

  A record can be written if its whole numbers can.  All of them are named here once, so that for
  each form it is enough to look at the ones it sets. -/

namespace LoadedMedia

/-- **An entry can be written exactly if its names and its lengths can** (`isWritable`). -/
theorem writable_toJson_iff (m : LoadedMedia) : m.toJson.writable = true ↔
    (m.sizeName.writable = true ∧ m.source.writable = true ∧ m.type.writable = true) ∧
    isWritable m.width = true ∧ isWritable m.length = true ∧
    isWritable m.bottomMargin = true ∧ isWritable m.leftMargin = true ∧
    isWritable m.rightMargin = true ∧ isWritable m.topMargin = true ∧
    isWritable m.leftOffset = true ∧ isWritable m.topOffset = true := by
  have hstring : ∀ s : String, (Json.string s).writable = true := by
    intro s
    rw [Json.writable.eq_def]
  simp only [toJson, Json.writable_object, record, List.forall_mem_cons, List.not_mem_nil,
    false_imp_iff, implies_true, and_true, Json.writable_int, hstring, true_and]
  constructor
  · rintro ⟨hname, hw, hl, hbottom, hleft, hright, htop, hx, hy, hsource, htype⟩
    exact ⟨⟨hname, hsource, htype⟩, hw, hl, hbottom, hleft, hright, htop, hx, hy⟩
  · rintro ⟨⟨hname, hsource, htype⟩, hw, hl, hbottom, hleft, hright, htop, hx, hy⟩
    exact ⟨hname, hw, hl, hbottom, hleft, hright, htop, hx, hy, hsource, htype⟩

theorem writable_empty : empty.toJson.writable = true := by
  have hzero : isWritable 0 = true := isWritable_of_le (by decide)
  rw [writable_toJson_iff]
  exact ⟨⟨rfl, rfl, rfl⟩, hzero, hzero, hzero, hzero, hzero, hzero, hzero, hzero⟩

end LoadedMedia

namespace Identity

theorem writable_contact_iff (c : Contact) : c.toJson.writable = true ↔
    c.name.writable = true ∧ c.email.writable = true ∧ c.telephone.writable = true := by
  simp only [Contact.toJson, Json.writable_object, Contact.record, List.forall_mem_cons,
    List.not_mem_nil, false_imp_iff, implies_true, and_true]

/-- **An identity `i` can be written exactly if its fields can.** -/
theorem writable_toJson_iff (i : Identity) : i.toJson.writable = true ↔
    i.dnsSdName.writable = true ∧ i.location.writable = true ∧ i.geoLocation.writable = true ∧
      i.organization.writable = true ∧ i.orgUnit.writable = true ∧
      i.contact.toJson.writable = true := by
  simp only [toJson, Json.writable_object, record, List.forall_mem_cons, List.not_mem_nil,
    false_imp_iff, implies_true, and_true]

end Identity

namespace DriverOptions

/-- What a `Default` is blanked with. -/
def Default.blank : (d : Default) → d.Value
  | .orientation | .darkness | .quality | .speed => (0 : Int)
  | .color => ColorMode.auto
  | .content => Content.auto
  | .scaling => Scaling.auto
  | .sides => Sides.oneSided
  | .resolution => (0, 0)
  | .media => LoadedMedia.empty

/-- The options `o` with blanks where forms put something in. -/
def blank (o : DriverOptions) : DriverOptions :=
  { o.withDefaults Default.blank with mediaReady := [] }

/-- The numbers of a `Default` can be written. -/
def Default.IsWritable : (d : Default) → d.Value → Prop
  | .orientation, n | .darkness, n | .quality, n | .speed, n => isWritable n = true
  | .resolution, r => isWritable r.1 = true ∧ isWritable r.2 = true
  | .media, m => m.toJson.writable = true
  | .color, _ | .content, _ | .scaling, _ | .sides, _ => True

/-- **Options can be written exactly if their defaults and their ready media can**, and the rest
    (`DriverOptions.blank`). -/
theorem writable_toJson_iff (o : DriverOptions) : o.toJson.writable = true ↔
    o.blank.toJson.writable = true ∧ (∀ d : Default, d.IsWritable (o.current d)) ∧
      ∀ m ∈ o.mediaReady, m.toJson.writable = true := by
  have hstring : ∀ s : String, (Json.string s).writable = true := by
    intro s
    rw [Json.writable.eq_def]
  have hbool : ∀ b : Bool, (Json.bool b).writable = true := by
    intro b
    rw [Json.writable.eq_def]
  have hset : ∀ (α : Type) [Vocabulary α] (set : Int), (setJson α set).writable = true := by
    intro α _ set
    rw [setJson, Json.writable_array, List.forall_mem_map]
    exact fun s _ => hstring s
  have hnone : (Json.array []).writable = true := (Json.writable_array []).2 (List.forall_mem_nil _)
  have hzero : isWritable 0 = true := isWritable_of_le (by decide)
  have hdefaults : (∀ d : Default, d.IsWritable (o.current d)) ↔
      isWritable o.orientationDefault = true ∧ isWritable o.darknessConfigured = true ∧
        isWritable o.qualityDefault = true ∧ isWritable o.speedDefault = true ∧
        (isWritable o.xDefault = true ∧ isWritable o.yDefault = true) ∧
        o.mediaDefault.toJson.writable = true := by
    constructor
    · intro h
      exact ⟨h .orientation, h .darkness, h .quality, h .speed, h .resolution, h .media⟩
    · rintro ⟨horientation, hdarkness, hquality, hspeed, hresolution, hmedia⟩ d
      cases d with
      | orientation => exact horientation
      | darkness => exact hdarkness
      | quality => exact hquality
      | speed => exact hspeed
      | resolution => exact hresolution
      | media => exact hmedia
      | color | content | scaling | sides => trivial
  have hready : (Json.array (o.mediaReady.map LoadedMedia.toJson)).writable = true ↔
      ∀ m ∈ o.mediaReady, m.toJson.writable = true := by
    rw [Json.writable_array, List.forall_mem_map]
  -- both sides now have the same parts, in another order
  rw [hdefaults, ← hready]
  simp only [toJson, Json.writable_object, record, blank, withDefaults, Default.blank,
    List.forall_mem_cons, List.not_mem_nil, false_imp_iff, implies_true, and_true,
    Json.writable_int, hstring, hbool, hset, hzero, hnone, LoadedMedia.writable_empty,
    List.map_nil, true_and]
  constructor
  · rintro ⟨hquality, horientation, hdarkness, hsteps, hspeed, hspeeds, hx, hy, hresolutions,
      hsizes, htypes, hsources, hready, hmedia, hvertical, hhorizontal, hleft, htop⟩
    exact ⟨⟨hsteps, hspeeds, hresolutions, hsizes, htypes, hsources, hvertical, hhorizontal, hleft,
      htop⟩, ⟨horientation, hdarkness, hquality, hspeed, ⟨hx, hy⟩, hmedia⟩, hready⟩
  · rintro ⟨⟨hsteps, hspeeds, hresolutions, hsizes, htypes, hsources, hvertical, hhorizontal, hleft,
      htop⟩, ⟨horientation, hdarkness, hquality, hspeed, ⟨hx, hy⟩, hmedia⟩, hready⟩
    exact ⟨hquality, horientation, hdarkness, hsteps, hspeed, hspeeds, hx, hy, hresolutions,
      hsizes, htypes, hsources, hready, hmedia, hvertical, hhorizontal, hleft, htop⟩

/-! ## The print defaults form

  A number that a form sets was read from a short text, or multiplied by the scale of speeds. -/

/-- A result `a` that is there was read without a fault. -/
theorem eq_ok_some_of_join {α : Type} {x : Except Fault (Option α)} {a : α}
    (h : x.toOption.join = some a) : x = .ok (some a) := by
  rcases x with e | r
  · cases h
  · exact congrArg Except.ok h

/-- **What a field of short text submits can be written** (`Default.IsWritable`), and so can the
    media of a source. -/
theorem isWritable_of_submitted {f : Form} {o : DriverOptions} (hf : f.IsShort)
    (ho : o.toJson.writable = true) {d : Default} {v : d.Value} (h : submitted f o d = some v) :
    d.IsWritable v := by
  obtain ⟨field, hfield, hv⟩ := Option.bind_eq_some_iff.1 h
  -- a number below a power of ten for each character of the text
  have hshort : ∀ {text : String} {n : Int} {extra : Nat}, field = some text →
      n.natAbs < 10 ^ (text.length + extra) → extra ≤ 4 → isWritable n = true := by
    rintro text n extra rfl hn hextra
    have hvalue : f.value? d.fieldName = some text := by
      rw [Form.value?, hfield]
      rfl
    have htext := hf.value? hvalue
    exact isWritable_of_lt_pow hn (by omega)
  have hnumber : ∀ {n : Int}, field.bind Default.read.number? = some n →
      ∃ text, field = some text ∧ n.natAbs < 10 ^ text.length := by
    intro n hn
    obtain ⟨text, rfl, hread⟩ := Option.bind_eq_some_iff.1 hn
    exact ⟨text, rfl, Form.natAbs_lt_of_leadingInt (eq_ok_some_of_join hread)⟩
  cases d with
  | color | content | scaling | sides => trivial
  | orientation =>
    obtain ⟨text, htext, hn⟩ := hnumber hv
    exact hshort htext hn (Nat.zero_le _)
  | darkness =>
    obtain ⟨text, htext, hn⟩ := hnumber hv
    exact hshort htext hn (Nat.zero_le _)
  | speed =>
    obtain ⟨n, hn, rfl⟩ := Option.map_eq_some_iff.1 hv
    obtain ⟨text, htext, hn⟩ := hnumber hn
    refine hshort htext ?_ (Nat.le_refl 4)
    rw [Int.natAbs_mul, Nat.pow_add]
    exact Nat.mul_lt_mul_of_lt_of_le hn (by decide) (by decide)
  | quality =>
    obtain ⟨q, -, rfl⟩ := Option.map_eq_some_iff.1 hv
    exact isWritable_of_le (by cases q <;> decide)
  | resolution =>
    obtain ⟨text, htext, hread⟩ := Option.bind_eq_some_iff.1 hv
    obtain ⟨hx, hy⟩ := Form.natAbs_lt_of_resolution (eq_ok_some_of_join hread)
    exact ⟨hshort htext hx (Nat.zero_le _), hshort htext hy (Nat.zero_le _)⟩
  | media =>
    obtain ⟨i, -, hready⟩ := Option.bind_eq_some_iff.1 hv
    exact ((writable_toJson_iff o).1 ho).2.2 v (List.mem_of_getElem? hready)

/-- **Short texts keep options writable** (`Form.IsShort`). -/
theorem writable_updated {f : Form} {o : DriverOptions} (hf : f.IsShort)
    (ho : o.toJson.writable = true) : (updated f o).toJson.writable = true := by
  obtain ⟨hblank, hdefaults, hready⟩ := (writable_toJson_iff o).1 ho
  refine (writable_toJson_iff _).2 ⟨hblank, ?_, hready⟩
  intro d
  rw [updated, current_withDefaults]
  cases h : submitted f o d with
  | none => exact hdefaults d
  | some v => exact isWritable_of_submitted hf ho h

/-! ## The media form

  Lengths come from floats and offsets from floats times a hundred; neither has more digits than a
  float can have.  Sizes of a name are bounded by its length. -/

/-- A `submittedOffset` is a product of floating-point numbers, or zero, and such a product has few
    digits. -/
theorem isWritable_submittedOffset (f : Form) (i : Nat) (part : String) :
    isWritable (submittedOffset f i part) = true := by
  unfold submittedOffset
  cases h : (f.value? (readyField i part)).bind (Form.measurement offsetScale) with
  | none => exact isWritable_of_le (by decide)
  | some r =>
    obtain ⟨text, -, hr⟩ := Option.bind_eq_some_iff.1 h
    exact isWritable_of_lt_pow (Form.natAbs_lt_of_measurement hr) (by decide)

/-- The lengths of a `submittedSize` are those of a short name, or products of floating-point
    numbers. -/
theorem isWritable_submittedSize {f : Form} {i : Nat} {source : Json} {size name : String}
    {width length : Int} (hsize : size.length + 4 ≤ maxDigits)
    (h : submittedSize f i source size = some (name, width, length)) :
    isWritable width = true ∧ isWritable length = true := by
  unfold submittedSize at h
  split at h
  · unfold customSize at h
    obtain ⟨⟨w, wide⟩, hw, h⟩ := Option.bind_eq_some_iff.1 h
    obtain ⟨⟨l, long⟩, hl, h⟩ := Option.bind_eq_some_iff.1 h
    cases h
    obtain ⟨text, -, hw⟩ := Option.bind_eq_some_iff.1 hw
    obtain ⟨text', -, hl⟩ := Option.bind_eq_some_iff.1 hl
    exact ⟨isWritable_of_lt_pow (Form.natAbs_lt_of_measurement hw) (by decide),
      isWritable_of_lt_pow (Form.natAbs_lt_of_measurement hl) (by decide)⟩
  · obtain ⟨s, hs, h⟩ := Option.map_eq_some_iff.1 h
    cases h
    obtain ⟨hw, hl⟩ := MediaSize.lookup_lt hs
    exact ⟨isWritable_of_lt_pow (by rwa [Int.natAbs_natCast]) hsize,
      isWritable_of_lt_pow (by rwa [Int.natAbs_natCast]) hsize⟩

/-- What stands in the `record` of options that can be written can be written itself. -/
theorem writable_of_record {o : DriverOptions} (ho : o.toJson.writable = true) (i : Nat)
    {key : String} {v : Json} (h : o.record[i]? = some (key, v)) : v.writable = true :=
  (Json.writable_object _).1 ho (key, v) (List.mem_of_getElem? h)

/-- **An entry of short texts (`submittedEntry`) can be written**: its margins and its source are
    those of the options. -/
theorem writable_submittedEntry {f : Form} {o : DriverOptions} (hf : f.IsShort)
    (ho : o.toJson.writable = true) {i : Nat} {source : Json} (hsource : o.sources[i]? = some source)
    {m : LoadedMedia} (h : submittedEntry f o.bottomTop o.leftRight i source = some m) :
    m.toJson.writable = true := by
  obtain ⟨size, hsize, rfl⟩ := Option.map_eq_some_iff.1 h
  have hzero : isWritable 0 = true := isWritable_of_le (by decide)
  have hvertical : isWritable o.bottomTop = true := by
    rw [← Json.writable_int]
    exact writable_of_record ho 24 rfl
  have hhorizontal : isWritable o.leftRight = true := by
    rw [← Json.writable_int]
    exact writable_of_record ho 25 rfl
  have hmargin : ∀ {n : Int}, isWritable n = true → ∀ borderless : Bool,
      isWritable (if borderless then 0 else n) = true := by
    intro n hn borderless
    cases borderless with
    | true => exact hzero
    | false => exact hn
  have hsources : source.writable = true :=
    (Json.writable_array _).1 (writable_of_record ho 20 rfl) source (List.mem_of_getElem? hsource)
  have hlengths : isWritable ((submittedSize f i source size).getD ("", 0, 0)).2.1 = true ∧
      isWritable ((submittedSize f i source size).getD ("", 0, 0)).2.2 = true := by
    rcases hs : submittedSize f i source size with - | ⟨name, width, length⟩
    · exact ⟨hzero, hzero⟩
    · exact isWritable_submittedSize (hf.value? hsize) hs
  rw [LoadedMedia.writable_toJson_iff]
  exact ⟨⟨rfl, hsources, rfl⟩, hlengths.1, hlengths.2, hmargin hvertical _, hmargin hhorizontal _,
    hmargin hhorizontal _, hmargin hvertical _, isWritable_submittedOffset f i _,
    isWritable_submittedOffset f i _⟩

/-- **Short texts keep the ready media writable**, entry by entry (`writable_submittedEntry`). -/
theorem writable_applyMediaForm {f : Form} {o : DriverOptions} (hf : f.IsShort)
    (ho : o.toJson.writable = true) : (applyMediaForm f o).1.toJson.writable = true := by
  obtain ⟨hblank, hdefaults, -⟩ := (writable_toJson_iff o).1 ho
  refine (writable_toJson_iff _).2 ⟨hblank, hdefaults, ?_⟩
  intro m hm
  obtain ⟨i, hi⟩ := List.mem_iff_getElem?.1 hm
  rw [getElem?_applyMediaForm] at hi
  obtain ⟨source, hsource, rfl⟩ := Option.map_eq_some_iff.1 hi
  by_cases hmanual : isManual source = true
  · rw [if_pos hmanual]
    exact LoadedMedia.writable_empty
  · rw [if_neg hmanual]
    cases hentry : submittedEntry f o.bottomTop o.leftRight i source with
    | none => exact LoadedMedia.writable_empty
    | some m => exact writable_submittedEntry hf ho hsource hentry

end DriverOptions

/-! ## The configuration form

  A form puts texts into an identity, or nothing, and both can always be written. -/

namespace Identity

/-- A `textField` gives a text or null, and neither has a number. -/
theorem writable_textField {f : Form} {name : String} {limit : Nat} {field : Option Json}
    (h : textField f name limit = .ok field) : ∀ v ∈ field, v.writable = true := by
  intro v hv
  rcases isSubmittedText_textField h v hv with rfl | ⟨text, rfl, -⟩ <;> rfl

theorem writable_geoField (f : Form) : ∀ v ∈ geoField f, v.writable = true := by
  intro v hv
  rcases isSubmittedLocation_geoField f v hv with rfl | ⟨x, y, -, -, rfl⟩ <;> rfl

/-- A contact from a form (`contactField`) is made of texts. -/
theorem writable_contactField {f : Form} {field : Option Contact} (h : contactField f = .ok field) :
    ∀ c ∈ field, c.toJson.writable = true := by
  intro c hc
  have htext : ∀ v ∈ [c.name, c.email, c.telephone], v.writable = true := by
    intro v hv
    obtain ⟨text, rfl, -⟩ := isSubmittedContact_contactField h c hc v hv
    rfl
  simp only [List.forall_mem_cons, List.not_mem_nil, false_imp_iff, implies_true, and_true] at htext
  obtain ⟨hname, hemail, htelephone⟩ := htext
  exact (writable_contact_iff c).2 ⟨hname, hemail, htelephone⟩

/-- **What the configuration form puts into an identity `i` can always be written.** -/
theorem writable_applyForm {f : Form} {i i' : Identity} {written : List Part}
    (h : applyForm f i = .ok (i', written)) (hi : i.toJson.writable = true) :
    i'.toJson.writable = true := by
  obtain ⟨c, hc, h⟩ := bind_eq_ok.1 h
  cases h
  simp only [Change.ofForm, bind_eq_ok] at hc
  obtain ⟨name, hname, location, hlocation, organization, horganization, unit, hunit, contact,
    hcontact, hc⟩ := hc
  cases hc
  obtain ⟨iname, ilocation, igeo, iorganization, iunit, icontact⟩ := (writable_toJson_iff i).1 hi
  have hkept : ∀ {old : Json} {new : Option Json}, old.writable = true →
      (∀ v ∈ new, v.writable = true) → (new.getD old).writable = true :=
    fun hold hnew => getD_of_forall (P := fun v : Json => v.writable = true) hold hnew
  refine (writable_toJson_iff _).2 ⟨?_, ?_, ?_, ?_, ?_, ?_⟩
  · exact hkept iname (writable_textField hname)
  · exact hkept ilocation (writable_textField hlocation)
  · exact hkept igeo (writable_geoField f)
  · exact hkept iorganization (writable_textField horganization)
  · exact hkept iunit (writable_textField hunit)
  · exact getD_of_forall (P := fun c : Contact => c.toJson.writable = true) icontact
      (writable_contactField hcontact)

end Identity

/-! ## Submissions -/

/-- The `Form` that is submitted. -/
def Submission.form : Submission → Form
  | .config f | .defaults f | .media f => f

namespace Printer

/-- **A printer `p` can be written exactly if its identity and its options can.** -/
theorem writable_toJson_iff (p : Printer) : p.toJson.writable = true ↔
    p.identity.toJson.writable = true ∧ p.driver.toJson.writable = true := by
  have hname : (Json.string p.name).writable = true := by
    rw [Json.writable.eq_def]
  simp only [toJson, Json.writable_object, record, List.forall_mem_cons, List.not_mem_nil,
    false_imp_iff, implies_true, and_true, hname, true_and]

/-- **A submission of short texts keeps a printer writable**, whichever form it is. -/
theorem writable_applied {p made : Printer} {s : Submission} (hp : p.driver.Aligned)
    (hw : p.toJson.writable = true) (hs : s.form.IsShort) (h : s.edit.applied p = .ok made) :
    made.toJson.writable = true := by
  obtain ⟨hidentity, hdriver⟩ := (writable_toJson_iff p).1 hw
  rw [writable_toJson_iff]
  cases s with
  | config f =>
    obtain ⟨⟨i, written⟩, hedit, rfl⟩ := map_eq_ok.1 h
    exact ⟨Identity.writable_applyForm hedit hidentity, hdriver⟩
  | defaults f =>
    obtain ⟨⟨o, written⟩, hedit, rfl⟩ := map_eq_ok.1 h
    have hread := (DriverOptions.applyDefaultsForm_isOk_iff hp).1 ⟨_, hedit⟩
    rw [DriverOptions.applyDefaultsForm_eq hread hp] at hedit
    cases hedit
    exact ⟨hidentity, DriverOptions.writable_updated hs hdriver⟩
  | media f =>
    obtain ⟨r, hedit, rfl⟩ := map_eq_ok.1 h
    obtain ⟨-, rfl⟩ := DriverOptions.submitMediaForm_eq_ok_iff.1 hedit
    exact ⟨hidentity, DriverOptions.writable_applyMediaForm hs hdriver⟩

end Printer

end PrinterConsole
