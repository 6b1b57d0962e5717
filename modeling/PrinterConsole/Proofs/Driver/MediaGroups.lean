/-
  The media form is read group by group.

  The fields of the source at a place begin with `ready`, the place and a hyphen.  Digits which no
  digit follows can be told from the text they make, so no field belongs to two places
  (`readyField_inj`), and what a submission makes of one source cannot depend on the fields of
  another one (`submittedEntry_congr`).

  The form is applied by a function that always has a result, because a measurement is accepted
  and converted in one step.  `rebuild` takes the two steps apart: first a number is accepted
  whose product with its scale is finite, then the product is converted, and converting what is
  not finite is a fault.  Both come to the same (`rebuild_eq`), so no conversion is ever a fault;
  and unless a size overflows, that is what a submission does (`submitMediaForm_of_fits`).

  Main statement: `rebuilt_by_groups`.
-/
import PrinterConsole.Driver.MediaForm
import PrinterConsole.Proofs.Fault
import PrinterConsole.Proofs.Number.Whole

namespace PrinterConsole.DriverOptions

open PrinterConsole.Number

/-! ## Names of fields

  A field of a source is named by its place and its part.  No two of these names are the same, so
  the groups of two sources have no field in common. -/

/-- The characters of `readyField`, parted behind the place. -/
theorem toList_readyField (i : Nat) (part : String) :
    (readyField i part).toList = "ready".toList ++ (Nat.toDigits 10 i ++ '-' :: part.toList) := by
  have hhyphen : "-".toList = ['-'] := rfl
  rw [readyField, String.toList_append, String.toList_append, String.toList_append, toList_natText,
    hhyphen, List.append_assoc, List.append_assoc, List.singleton_append]

/-- **No field belongs to two places**, not even to places `i` and `j` of which one begins like the
    other. -/
theorem readyField_inj {i j : Nat} {p q : String} (h : readyField i p = readyField j q) :
    i = j ∧ p = q := by
  have hlist := congrArg String.toList h
  rw [toList_readyField, toList_readyField] at hlist
  have hhyphen : ∀ cs, NoDigit ('-' :: cs) := noDigit_cons (by decide)
  obtain ⟨hij, hrest⟩ :=
    append_toDigits_inj (hhyphen _) (hhyphen _) (List.append_cancel_left hlist)
  exact ⟨hij, String.toList_inj.1 (List.cons.inj hrest).2⟩

/-! ## Entries

  Every source has its entry, made of its own group alone (`submittedEntry`). -/

/-- A `submittedEntry` depends on the fields of its group, whichever place they are for. -/
theorem submittedEntry_congr {f g : Form} {i j : Nat}
    (h : ∀ part, g.field? (readyField j part) = f.field? (readyField i part))
    (bottomTop leftRight : Int) (source : Json) :
    submittedEntry g bottomTop leftRight j source =
      submittedEntry f bottomTop leftRight i source := by
  have hvalue : ∀ part, g.value? (readyField j part) = f.value? (readyField i part) := by
    intro part
    rw [Form.value?, Form.value?, h]
  have hhas : ∀ part, g.has (readyField j part) = f.has (readyField i part) := by
    intro part
    rw [Form.has, Form.has, h]
  have hoffset : ∀ part, submittedOffset g j part = submittedOffset f i part := by
    intro part
    rw [submittedOffset, submittedOffset, hvalue]
  have hsize : ∀ size, submittedSize g j source size = submittedSize f i source size := by
    intro size
    simp only [submittedSize, customSize, hvalue]
  simp only [submittedEntry, hvalue, hhas, hoffset, hsize]

/-- The entry of a source: what its group asks for, or `LoadedMedia.empty`; the table is read by its
    places from here on. -/
theorem getElem?_applyMediaForm (f : Form) (o : DriverOptions) (i : Nat) :
    (applyMediaForm f o).1.mediaReady[i]? = o.sources[i]?.map fun source =>
      (if isManual source then none
        else submittedEntry f o.bottomTop o.leftRight i source).getD .empty := by
  simp only [applyMediaForm, submittedEntries, List.map_map, List.getElem?_map,
    List.getElem?_zipIdx, Option.map_map, Nat.zero_add]
  rfl

theorem isSome_submittedEntry (f : Form) (bottomTop leftRight : Int) (i : Nat) (source : Json) :
    (submittedEntry f bottomTop leftRight i source).isSome =
      (f.value? (readyField i "size")).isSome := by
  rw [submittedEntry, Option.isSome_map]

/-- `applyMediaForm` tells the sources whose entries it set, in their order. -/
theorem configured_eq (f : Form) (o : DriverOptions) :
    (applyMediaForm f o).2 = (o.sources.zipIdx.filter fun p =>
      !isManual p.1 && (f.value? (readyField p.2 "size")).isSome).map (·.1) := by
  have hset : ∀ p : Json × Nat,
      (if isManual p.1 then none
        else submittedEntry f o.bottomTop o.leftRight p.2 p.1).isSome =
          (!isManual p.1 && (f.value? (readyField p.2 "size")).isSome) := by
    intro p
    cases isManual p.1 with
    | true => rfl
    | false => exact isSome_submittedEntry ..
  simp only [applyMediaForm, submittedEntries, List.filter_map, List.map_map]
  congr 1
  exact List.filter_congr fun p _ => hset p

/-! ## Accepting, then converting

  The program first sees whether a text is a finite number and converts it later, as if that could
  not fail.  `rebuild` is the same with the faults that each conversion could have; that there are
  none is the first thing to be shown. -/

/-- The number in a field, if its product with `scale` is finite. -/
def accepted (f : Form) (index : Nat) (part : String) (scale : Nat) : Option Binary64 :=
  (f.value? (readyField index part)).bind fun text =>
    (readDecimal text.toList).filter fun x => (x.mulNat scale).isFinite

/-- The product of a number with `scale` as a whole number. -/
def converted (scale : Nat) (x : Binary64) : Except Fault Int :=
  (Json.float (x.mulNat scale)).toWhole

/-- Size name, width and length of the submitted `size`, each conversion a step that may fail. -/
def convertedSize (f : Form) (index : Nat) (source : Json) (size : String) :
    Except Fault (String × Int × Int) :=
  if size = customChoice then
    match accepted f index "custom-width" hundredthsPerInch,
        accepted f index "custom-length" hundredthsPerInch with
    | some w, some l => do
      let width ← inchesToHundredths w
      let length ← inchesToHundredths l
      return (customSizeName source.shown w l, width, length)
    | _, _ => .ok ("", 0, 0)
  else
    match MediaSize.lookup size with
    | some s => .ok (size, s.width, s.length)
    | none => .ok ("", 0, 0)

/-- A submitted offset, converted by `Json.toWhole`. -/
def convertedOffset (f : Form) (index : Nat) (part : String) : Except Fault Int :=
  match accepted f index part offsetScale with
  | some x => converted offsetScale x
  | none => .ok 0

/-- The entry of the source at `index`, if its size field is present. -/
def convertedEntry (f : Form) (o : DriverOptions) (index : Nat) (source : Json) :
    Except Fault (Option LoadedMedia) :=
  match f.value? (readyField index "size") with
  | none => .ok none
  | some size => do
    let (name, width, length) ← convertedSize f index source size
    let top ← convertedOffset f index "top-offset"
    let left ← convertedOffset f index "left-offset"
    let borderless := f.has (readyField index "borderless")
    return some {
      sizeName := .string name
      width := width
      length := length
      bottomMargin := if borderless then 0 else o.bottomTop
      leftMargin := if borderless then 0 else o.leftRight
      rightMargin := if borderless then 0 else o.leftRight
      topMargin := if borderless then 0 else o.bottomTop
      leftOffset := left
      topOffset := top
      source := source
      tracking := (f.value? (readyField index "tracking")).bind Vocabulary.ofKeyword?
      type := .string ((f.value? (readyField index "type")).getD "") }

/-- The options after a submission and the sources it configured, every conversion a step of its own
    (`convertedEntry`). -/
def rebuild (f : Form) (o : DriverOptions) : Except Fault (DriverOptions × List Json) := do
  let entries ← o.sources.zipIdx.mapM fun (source, index) =>
    if isManual source then .ok (source, none)
    else (convertedEntry f o index source).map fun entry => (source, entry)
  return ({ o with mediaReady := entries.map fun e => e.2.getD .empty },
    (entries.filter fun e => e.2.isSome).map (·.1))

theorem isFinite_eq_isSome_truncate? (x : Binary64) : x.isFinite = x.truncate?.isSome := by
  cases x <;> rfl

/-- What has a whole part `n` is converted to it, without a fault. -/
theorem toWhole_of_truncate? {x : Binary64} {n : Int} (h : x.truncate? = some n) :
    (Json.float x).toWhole = .ok n := by
  cases x with
  | finite s m e hc => simp only [Json.toWhole, h]
  | infinite s => cases h
  | nan => cases h

/-- **A number that is accepted is converted**, and these are the measurements that the form has:
    `Form.measurement` is `accepted` and `converted` in one. -/
theorem measurement_eq (f : Form) (i : Nat) (part : String) (scale : Nat) :
    (f.value? (readyField i part)).bind (Form.measurement scale) = none ∧
        accepted f i part scale = none ∨
      ∃ x n, (f.value? (readyField i part)).bind (Form.measurement scale) = some (x, n) ∧
        accepted f i part scale = some x ∧ converted scale x = .ok n := by
  unfold accepted Form.measurement
  cases f.value? (readyField i part) with
  | none => exact .inl ⟨rfl, rfl⟩
  | some text =>
    simp only [Option.bind_some]
    cases readDecimal text.toList with
    | none => exact .inl ⟨rfl, rfl⟩
    | some x =>
      simp only [Option.bind_eq_bind, Option.bind_some, converted]
      rw [Option.filter_some, isFinite_eq_isSome_truncate?]
      cases hn : (x.mulNat scale).truncate? with
      | none => exact .inl ⟨rfl, rfl⟩
      | some n => exact .inr ⟨x, n, rfl, rfl, toWhole_of_truncate? hn⟩

/-- An offset is converted to what the form submits for it (`submittedOffset`). -/
theorem convertedOffset_eq (f : Form) (i : Nat) (part : String) :
    convertedOffset f i part = .ok (submittedOffset f i part) := by
  unfold convertedOffset submittedOffset
  rcases measurement_eq f i part offsetScale with ⟨hm, ha⟩ | ⟨x, n, hm, ha, hc⟩
  · rw [hm, ha]
    rfl
  · rw [hm, ha]
    exact hc

/-- A size is converted to what the form submits for it (`submittedSize`), be it a custom one or
    named. -/
theorem convertedSize_eq (f : Form) (i : Nat) (source : Json) (size : String) :
    convertedSize f i source size = .ok ((submittedSize f i source size).getD ("", 0, 0)) := by
  unfold convertedSize submittedSize
  split
  · unfold customSize
    -- both lengths have to be accepted
    rcases measurement_eq f i "custom-width" hundredthsPerInch with
      ⟨hm, ha⟩ | ⟨w, width, hm, ha, hw⟩
    · rw [hm, ha]
      rfl
    · rw [hm, ha]
      rcases measurement_eq f i "custom-length" hundredthsPerInch with
        ⟨hm', ha'⟩ | ⟨l, length, hm', ha', hl⟩
      · rw [hm', ha']
        rfl
      · change inchesToHundredths w = .ok width at hw
        change inchesToHundredths l = .ok length at hl
        rw [hm', ha']
        simp only [hw, hl, ok_bind]
        rfl
  · cases MediaSize.lookup size <;> rfl

/-- An entry that is converted step by step is the `submittedEntry`. -/
theorem convertedEntry_eq (f : Form) (o : DriverOptions) (i : Nat) (source : Json) :
    convertedEntry f o i source =
      .ok (submittedEntry f o.bottomTop o.leftRight i source) := by
  unfold convertedEntry submittedEntry
  cases f.value? (readyField i "size") with
  | none => rfl
  | some size =>
    simp only [convertedSize_eq, convertedOffset_eq, ok_bind]
    rfl

/-- **No conversion is a fault**: step by step the form comes to the same result, as every entry
    does (`convertedEntry_eq`). -/
theorem rebuild_eq (f : Form) (o : DriverOptions) : rebuild f o = .ok (applyMediaForm f o) := by
  have hentries : ∀ p ∈ o.sources.zipIdx,
      (if isManual p.1 then .ok (p.1, none)
        else (convertedEntry f o p.2 p.1).map fun entry => (p.1, entry)) =
          (.ok (p.1, if isManual p.1 then none
            else submittedEntry f o.bottomTop o.leftRight p.2 p.1) :
              Except Fault (Json × Option LoadedMedia)) := by
    intro p _
    rw [convertedEntry_eq]
    split <;> rfl
  unfold rebuild
  rw [mapM_eq_ok_map hentries]
  rfl

/-! ## The whole form -/

/-- `submitMediaForm` asks for nothing more than that no size of a source that is offered
    overflows. -/
theorem submitMediaForm_of_fits {f : Form} {o : DriverOptions}
    (h : ∀ i source, o.sources[i]? = some source → isManual source = false →
      sizeOverflows f i = false) : submitMediaForm f o = .ok (applyMediaForm f o) := by
  rw [submitMediaForm, if_neg]
  rw [Bool.not_eq_true, List.any_eq_false]
  rintro ⟨source, i⟩ hentry
  rw [List.mem_zipIdx_iff_getElem?] at hentry
  rw [Bool.and_eq_true, Bool.not_eq_true']
  rintro ⟨hmanual, hoverflows⟩
  rw [h i source hentry hmanual] at hoverflows
  cases hoverflows

/-- **The media form makes the table anew, each group by itself.** No conversion is a fault, and
    `submitMediaForm` takes the form unless the size of a source overflows.  There is one entry for
    each source afterwards and nothing else is changed.  The entry of the manual feed, or of a
    source whose size field is missing, is empty; any other is one for its source.  An entry is the
    same whenever its source, the margins of the printer and the fields of its group are, and no
    field is in two groups: neither the old table nor other groups count.  What is told are the
    sources of the entries that were set, and of two submissions only the second counts. -/
theorem rebuilt_by_groups (f : Form) (o : DriverOptions) :
    rebuild f o = .ok (applyMediaForm f o) ∧
    ((∀ i source, o.sources[i]? = some source → isManual source = false →
      sizeOverflows f i = false) → submitMediaForm f o = .ok (applyMediaForm f o)) ∧
    -- the table
    (applyMediaForm f o).1 = { o with mediaReady := (applyMediaForm f o).1.mediaReady } ∧
    (applyMediaForm f o).1.mediaReady.length = o.sources.length ∧
    -- the entries
    (∀ i source, o.sources[i]? = some source →
      isManual source ∨ f.value? (readyField i "size") = none →
        (applyMediaForm f o).1.mediaReady[i]? = some .empty) ∧
    (∀ i source, o.sources[i]? = some source →
      isManual source = false → (f.value? (readyField i "size")).isSome →
        ∃ m, (applyMediaForm f o).1.mediaReady[i]? = some m ∧ m.source = source) ∧
    -- the groups
    (∀ (g : Form) (o' : DriverOptions) (i j : Nat), o'.sources[j]? = o.sources[i]? →
      o'.bottomTop = o.bottomTop → o'.leftRight = o.leftRight →
      (∀ part, g.field? (readyField j part) = f.field? (readyField i part)) →
        (applyMediaForm g o').1.mediaReady[j]? = (applyMediaForm f o).1.mediaReady[i]?) ∧
    (∀ (i j : Nat) (p q : String), readyField i p = readyField j q → i = j ∧ p = q) ∧
    -- what is told, and a second submission
    (applyMediaForm f o).2 = (o.sources.zipIdx.filter fun p =>
      !isManual p.1 && (f.value? (readyField p.2 "size")).isSome).map (·.1) ∧
    ∀ g : Form, applyMediaForm g (applyMediaForm f o).1 = applyMediaForm g o := by
  refine ⟨rebuild_eq f o, submitMediaForm_of_fits, rfl, aligned_applyMediaForm f o, ?_, ?_, ?_, ?_,
    configured_eq f o, ?_⟩
  · intro i source hsource hempty
    rw [getElem?_applyMediaForm, hsource]
    rcases hempty with hmanual | hsize
    · simp [hmanual]
    · simp [submittedEntry, hsize]
  · intro i source hsource hmanual hsize
    obtain ⟨size, hsize⟩ := Option.isSome_iff_exists.1 hsize
    rw [getElem?_applyMediaForm, hsource]
    refine ⟨_, rfl, ?_⟩
    simp [hmanual, submittedEntry, hsize]
  · intro g o' i j hsource hvertical hhorizontal hgroup
    rw [getElem?_applyMediaForm, getElem?_applyMediaForm, hsource, hvertical, hhorizontal]
    simp only [submittedEntry_congr hgroup]
  · exact fun i j p q => readyField_inj
  · exact fun g => rfl

end PrinterConsole.DriverOptions
