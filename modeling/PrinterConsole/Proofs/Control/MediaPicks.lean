/-
  What is picked on the media page is what the page shows next.

  A pick for a source (`MediaPick`) is a standard size, perhaps a tracking and a type, and whether
  to print borderless.  The form makes an entry of it (`submittedEntry_of_given`), and the editor
  shows the pick again: the size is found in the list of sizes, at its first place
  (`selected_sizeChoices`), the keyword of the tracking names what is loaded, and an entry is
  borderless exactly if its margins are zero, so the margins of the printer must not be.

  What an editor shows determines the pick (`Shown.eq`), so to submit what is shown is to submit
  the pick again.

  That the next page can be made at all is not a matter of course, since sizes, types and offsets
  may be faults.  `ofSource_eq_ok_iff` takes an editor apart into what may fail, and
  `exists_ofSource` puts another one together from the same parts: none of them depends on the
  loaded media in a way that could fail anew.

  Main statement: `media_page_after_pick`.
-/
import PrinterConsole.Control.MediaChooser
import PrinterConsole.Driver.Profile
import PrinterConsole.Proofs.Driver.MediaGroups
import PrinterConsole.Proofs.Keyword.Flags
import PrinterConsole.Proofs.Number.Range

namespace PrinterConsole

open PrinterConsole.Number Vocabulary DriverOptions

/-- What is picked for one source on the media page. -/
structure MediaPick where
  size : String
  tracking : Option String
  type : Option String
  borderless : Bool

namespace MediaPick

/-- The form `f` has the pick `p` for the source at the place `i`, and no offsets. -/
structure Given (p : MediaPick) (f : Form) (i : Nat) : Prop where
  size : f.value? (readyField i "size") = some p.size
  tracking : f.value? (readyField i "tracking") = p.tracking
  type : f.value? (readyField i "type") = p.type
  borderless : f.has (readyField i "borderless") = p.borderless
  leftOffset : f.value? (readyField i "left-offset") = none
  topOffset : f.value? (readyField i "top-offset") = none

/-- The printer offers the pick `p`: its size is a standard one of known dimensions, and its
    tracking and its type are among the supported ones. -/
structure Offered (p : MediaPick) (o : DriverOptions) : Prop where
  listed : Json.string p.size ∈ o.media
  standard : isCustomKeyword p.size = false
  known : (MediaSize.lookup p.size).isSome = true
  tracking : ∀ t ∈ p.tracking, ∃ m ∈ membersIn Tracking o.trackingSupported, keyword m = t
  type : ∀ t ∈ p.type, Json.string t ∈ o.types

/-- The editor `c` shows the pick `p`: one size is selected, and the selected values of the other
    controls are exactly those of the pick. -/
structure Shown (p : MediaPick) (c : MediaChooser) : Prop where
  size : (c.sizes.filter (·.selected)).map (·.value) = [.string p.size]
  tracking : ∀ v, (∃ choice ∈ c.tracking, choice.selected = true ∧ choice.value = v) ↔
    v ∈ p.tracking.map Json.string
  type : ∀ v, (∃ choice ∈ c.types, choice.selected = true ∧ choice.value = v) ↔
    v ∈ p.type.map Json.string
  borderless : c.borderless = some p.borderless

/-- An editor shows one pick at most (`Shown`), since the selected values determine all of its
    parts. -/
theorem Shown.eq {p q : MediaPick} {c : MediaChooser} (hp : p.Shown c) (hq : q.Shown c) : p = q := by
  have hmap : ∀ {x y : Option String},
      (∀ v, v ∈ x.map Json.string ↔ v ∈ y.map Json.string) → x = y := by
    intro x y h
    have hinj : Function.Injective Json.string := fun _ _ h => Json.string.inj h
    exact Option.map_injective hinj (Option.ext h)
  obtain ⟨size, tracking, type, borderless⟩ := p
  obtain ⟨size', tracking', type', borderless'⟩ := q
  have hsize := hp.size.symm.trans hq.size
  cases hsize
  cases hmap fun v => (hp.tracking v).symm.trans (hq.tracking v)
  cases hmap fun v => (hp.type v).symm.trans (hq.type v)
  cases hp.borderless.symm.trans hq.borderless
  rfl

/-! ## What is loaded

  A pick is put into a form and comes back as the entry of its source (`loaded`).  The size is a
  standard one, so it is found by its name and no custom length is read. -/

/-- The entry for a pick of a size: what `submittedEntry` makes of it, written out. -/
def loaded (p : MediaPick) (s : MediaSize) (o : DriverOptions) (source : Json) : LoadedMedia where
  sizeName := .string p.size
  width := s.width
  length := s.length
  bottomMargin := if p.borderless then 0 else o.bottomTop
  leftMargin := if p.borderless then 0 else o.leftRight
  rightMargin := if p.borderless then 0 else o.leftRight
  topMargin := if p.borderless then 0 else o.bottomTop
  leftOffset := 0
  topOffset := 0
  source := source
  tracking := p.tracking.bind ofKeyword?
  type := .string (p.type.getD "")

/-- `customChoice` is no name of a size, so a size of known dimensions is not read as a custom
    one. -/
theorem lookup_customChoice : MediaSize.lookup customChoice = none := by decide

variable {p : MediaPick} {s : MediaSize} {o : DriverOptions} {f : Form} {i : Nat} {source : Json}

/-- **A pick is loaded as it is given**: `loaded` is what the form makes of it. -/
theorem submittedEntry_of_given (hgiven : p.Given f i) (hs : MediaSize.lookup p.size = some s) :
    submittedEntry f o.bottomTop o.leftRight i source = some (p.loaded s o source) := by
  have hne : p.size ≠ customChoice := by
    intro h
    rw [h, lookup_customChoice] at hs
    cases hs
  have hsize : submittedSize f i source p.size = some (p.size, (s.width : Int), (s.length : Int)) := by
    rw [submittedSize, if_neg hne, hs, Option.map_some]
  have hleft : submittedOffset f i "left-offset" = 0 := by
    rw [submittedOffset, hgiven.leftOffset]
    rfl
  have htop : submittedOffset f i "top-offset" = 0 := by
    rw [submittedOffset, hgiven.topOffset]
    rfl
  rw [submittedEntry, hgiven.size, Option.map_some]
  simp only [hsize, hleft, htop, hgiven.tracking, hgiven.type, hgiven.borderless, Option.getD_some]
  rfl

/-- Borderless is what has no margins, and a printer with margins gives them to anything else, so
    `isBorderless` gives the pick back. -/
theorem isBorderless_loaded (hmargins : ¬ (o.bottomTop = 0 ∧ o.leftRight = 0)) :
    (p.loaded s o source).isBorderless = p.borderless := by
  unfold LoadedMedia.isBorderless loaded
  cases p.borderless with
  | true => rfl
  | false =>
    simp only [Bool.false_eq_true, if_false]
    rw [← Bool.not_eq_true]
    intro h
    simp only [Bool.and_eq_true, beq_iff_eq] at h
    exact hmargins ⟨h.2, h.1.2⟩

end MediaPick

/-! ## Building an editor

  `ofSource` reads many things one after another, any of which may be a fault.  Here it is said once
  what they are (`ofSource_eq_ok_iff`), and every statement below about an editor takes it apart
  with that. -/

namespace MediaChooser

/-- The keywords of the custom range, if both bounds are announced. -/
def boundsOf (keywords : List String) : Option (String × String) :=
  match findCustomRange keywords with
  | (some least, some most) => some (least, most)
  | _ => none

/-- An editor with the parts that may be faults, as `ofSource` puts it together. -/
def editor (o : DriverOptions) (index : Int) (media : LoadedMedia) (hasCustom : Bool)
    (sizes types : List Choice) (inputs : Option (NumberInput × NumberInput)) (title : String)
    (left top : Option NumberInput) : MediaChooser where
  name := "ready" ++ intText index
  title := title
  sizes := sizes
  customWidth := inputs.map (·.1)
  customLength := inputs.map (·.2)
  showCustom := hasCustom && (sizes.head?.map (·.selected)).getD false
  borderless := if o.borderless then some media.isBorderless else none
  leftOffset := left
  topOffset := top
  tracking := trackingChoices o media
  types := types

/-- An editor is built if each of its parts is: `ofSource` as a list of conditions, with `editor`
    for what is left when they hold. -/
theorem ofSource_eq_ok_iff {o : DriverOptions} {index : Int} {c : MediaChooser} :
    ofSource o index = .ok c ↔
      ∃ source media keywords sizes inputs types title left top,
        itemAt o.sources index = .ok source ∧ itemAt o.mediaReady index = .ok media ∧
        o.media.mapM sizeKeyword = .ok keywords ∧
        sizeChoices (standardSizes keywords) media.sizeName (boundsOf keywords).isSome = .ok sizes ∧
        (boundsOf keywords).mapM
          (fun b => customInputs ("ready" ++ intText index) b.1 b.2 media) = .ok inputs ∧
        typeChoices o media = .ok types ∧ Label.ofJson "media-source" source = .ok title ∧
        offsetInput ("ready" ++ intText index ++ "-left-offset") o.leftOffsetSupported
          media.leftOffset = .ok left ∧
        offsetInput ("ready" ++ intText index ++ "-top-offset") o.topOffsetSupported
          media.topOffset = .ok top ∧
        editor o index media (boundsOf keywords).isSome sizes types inputs title left top = c := by
  unfold ofSource
  simp only [bind_eq_ok]
  constructor
  · rintro ⟨source, hsource, media, hmedia, keywords, hkeywords, sizes, hsizes, inputs, hinputs,
      types, htypes, title, htitle, left, hleft, top, htop, h⟩
    exact ⟨source, media, keywords, sizes, inputs, types, title, left, top, hsource, hmedia,
      hkeywords, hsizes, hinputs, htypes, htitle, hleft, htop, Except.ok.inj h⟩
  · rintro ⟨source, media, keywords, sizes, inputs, types, title, left, top, hsource, hmedia,
      hkeywords, hsizes, hinputs, htypes, htitle, hleft, htop, rfl⟩
    exact ⟨source, hsource, media, hmedia, keywords, hkeywords, sizes, hsizes, inputs, hinputs,
      types, htypes, title, htitle, left, hleft, top, htop, rfl⟩

/-- At a place that is not negative, `itemAt` is the lookup of the list. -/
theorem itemAt_eq_ok_iff {α : Type} {items : List α} {i : Nat} {x : α} :
    itemAt items (i : Int) = .ok x ↔ items[i]? = some x := by
  have hplace : ¬ (i : Int) < 0 := by omega
  simp only [itemAt, if_neg hplace, Int.toNat_natCast]
  split
  · rename_i y hy
    rw [hy]
    exact ⟨fun h => congrArg some (Except.ok.inj h), fun h => congrArg Except.ok (Option.some.inj h)⟩
  · rename_i hnone
    rw [hnone]
    exact iff_of_false (fun h => by cases h) (fun h => by cases h)

/-! ## Sizes

  The option that is selected depends on a place in the list: the place of the loaded size among the
  names, or the first option if it is not among them.  A size that was picked is among them. -/

/-- The option for a size `m` at its place, given the place that is `selected`. -/
def sizeChoice (selected : Option Nat) (m : String × Nat) : Except Fault Choice := do
  return {
    value := .string m.1
    label := ← Label.ofKeyword "media" m.1
    selected := selected == some m.2 }

/-- The place of the `current` size, if it is one to choose from. -/
def placeOf (sizes : List String) (current : Json) : Option Nat :=
  sizes.findIdx? fun s => (Json.string s).same current

/-- The size options in terms of `placeOf` and `sizeChoice`, which have names here and none in the
    definition. -/
theorem sizeChoices_eq (sizes : List String) (current : Json) (hasCustom : Bool) :
    sizeChoices sizes current hasCustom = (do
      let place := placeOf sizes current
      let listed ← sizes.zipIdx.mapM (sizeChoice (if hasCustom then place else place.or (some 0)))
      return customChoices hasCustom place.isNone ++ listed) := rfl

/-- There is one member at a place of a numbered list (`List.zipIdx`), so exactly one option is
    selected by its place. -/
theorem filter_zipIdx {α : Type} {items : List α} {k : Nat} {x : α} (hx : items[k]? = some x)
    (start : Nat) :
    (items.zipIdx start).filter (fun m => some (start + k) == some m.2) = [(x, start + k)] := by
  induction items generalizing k start with
  | nil => cases hx
  | cons a rest ih =>
    rw [List.zipIdx_cons]
    cases k with
    | zero =>
      cases hx
      have hrest : (rest.zipIdx (start + 1)).filter (fun m => some (start + 0) == some m.2) = [] := by
        refine List.filter_eq_nil_iff.2 fun m hm => ?_
        have := List.le_snd_of_mem_zipIdx hm
        simp
        omega
      rw [List.filter_cons_of_pos (by simp), hrest]
      rfl
    | succ k =>
      rw [List.getElem?_cons_succ] at hx
      have hplace : start + (k + 1) = start + 1 + k := by omega
      rw [List.filter_cons_of_neg (by simp), hplace]
      exact ih hx (start + 1)

/-- A listed size has a place, and there stands that size (`Json.string_same`). -/
theorem exists_place {sizes : List String} {size : String} (hsize : size ∈ sizes) :
    ∃ k, placeOf sizes (.string size) = some k ∧ sizes[k]? = some size := by
  cases hplace : placeOf sizes (.string size) with
  | none =>
    have hne := List.findIdx?_eq_none_iff.1 hplace size hsize
    rw [Json.same, beq_self_eq_true] at hne
    cases hne
  | some k =>
    obtain ⟨hk, hsame, -⟩ := List.findIdx?_eq_some_iff_getElem.1 hplace
    rw [Json.same, beq_iff_eq] at hsame
    exact ⟨k, rfl, by rw [List.getElem?_eq_getElem hk, hsame]⟩

/-- **What the size options are**: their values, and which of them are selected.  Labels are left
    out, as they say nothing about the pick. -/
theorem pairs_sizeChoices {sizes : List String} {current : Json} {hasCustom : Bool}
    {choices : List Choice} (h : sizeChoices sizes current hasCustom = .ok choices) :
    choices.map (fun c => (c.value, c.selected)) =
      (if hasCustom then [(.string customChoice, (placeOf sizes current).isNone)] else []) ++
        sizes.zipIdx.map fun m => (Json.string m.1,
          (if hasCustom then placeOf sizes current else (placeOf sizes current).or (some 0)) ==
            some m.2) := by
  rw [sizeChoices_eq] at h
  obtain ⟨listed, hlisted, h⟩ := bind_eq_ok.1 h
  cases h
  rw [List.map_append, map_of_mapM_ok hlisted (h := fun c => (c.value, c.selected))
    (k := fun m => (Json.string m.1,
      (if hasCustom then placeOf sizes current else (placeOf sizes current).or (some 0)) ==
        some m.2))]
  · cases hasCustom <;> rfl
  · intro m _ c hc
    obtain ⟨label, -, hc⟩ := bind_eq_ok.1 hc
    cases hc
    rfl

/-- **The first place of the current size is selected, and nothing else**: not the custom size
    either. -/
theorem selected_sizeChoices {sizes : List String} {size : String} {hasCustom : Bool}
    {choices : List Choice} (h : sizeChoices sizes (.string size) hasCustom = .ok choices)
    (hsize : size ∈ sizes) :
    (choices.filter (·.selected)).map (·.value) = [.string size] ∧
      (hasCustom && (choices.head?.map (·.selected)).getD false) = false := by
  obtain ⟨k, hplace, hk⟩ := exists_place hsize
  have hpairs := pairs_sizeChoices h
  rw [hplace] at hpairs
  have hfilter : (choices.filter (·.selected)).map (·.value) =
      ((choices.map fun c => (c.value, c.selected)).filter (·.2)).map (·.1) := by
    rw [List.filter_map, List.map_map]
    rfl
  have hhead : choices.head?.map (·.selected) =
      (choices.map fun c => (c.value, c.selected)).head?.map (·.2) := by
    rw [List.head?_map, Option.map_map]
    rfl
  have hone := filter_zipIdx hk 0
  rw [Nat.zero_add] at hone
  have hselected : ((sizes.zipIdx.map fun m => (Json.string m.1, some k == some m.2)).filter
      (·.2)).map (·.1) = [.string size] := by
    rw [List.filter_map, List.map_map]
    exact congrArg (List.map fun m => Json.string m.1) hone
  rw [hfilter, hhead, hpairs]
  cases hasCustom with
  | true => exact ⟨hselected, rfl⟩
  | false => exact ⟨hselected, rfl⟩

/-! ## Tracking and types

  Both controls mark what is equal to the loaded value, whatever it is, so it is enough to know
  which values are offered. -/

/-- Of the types those are selected that are loaded, by `Json.same`. -/
theorem selected_typeChoices {o : DriverOptions} {media : LoadedMedia} {types : List Choice}
    (h : typeChoices o media = .ok types) (v : Json) :
    (∃ choice ∈ types, choice.selected = true ∧ choice.value = v) ↔
      v ∈ o.types ∧ v.same media.type = true := by
  have hpairs : types.map (fun c => (c.value, c.selected)) =
      o.types.map fun t => (t, t.same media.type) := by
    refine map_of_mapM_ok h fun t _ c hc => ?_
    obtain ⟨label, -, hc⟩ := bind_eq_ok.1 hc
    cases hc
    rfl
  have hmem : (v, true) ∈ types.map (fun c => (c.value, c.selected)) ↔
      ∃ choice ∈ types, choice.selected = true ∧ choice.value = v := by
    simp only [List.mem_map, Prod.mk.injEq, and_comm]
  rw [← hmem, hpairs, List.mem_map]
  constructor
  · rintro ⟨t, ht, heq⟩
    obtain ⟨rfl, hsame⟩ := Prod.mk.inj heq
    exact ⟨ht, hsame⟩
  · rintro ⟨hv, hsame⟩
    exact ⟨v, hv, by rw [hsame]⟩

/-- The tracking choices that are selected are those with the keyword of the loaded one. -/
theorem selected_trackingChoices (o : DriverOptions) (media : LoadedMedia) (v : Json) :
    (∃ choice ∈ trackingChoices o media, choice.selected = true ∧ choice.value = v) ↔
      ∃ m ∈ membersIn Tracking o.trackingSupported,
        media.tracking = some m ∧ Json.string (keyword m) = v := by
  unfold trackingChoices
  constructor
  · rintro ⟨choice, hchoice, hselected, hvalue⟩
    obtain ⟨m, hm, rfl⟩ := List.mem_map.1 hchoice
    exact ⟨m, hm, (beq_iff_eq.1 hselected).symm, hvalue⟩
  · rintro ⟨m, hm, hmedia, hvalue⟩
    exact ⟨_, List.mem_map_of_mem hm, beq_iff_eq.2 hmedia.symm, hvalue⟩

/-! ## Editors that can be built

  An editor that can be built before a submission can be built after it: what may be a fault are the
  lengths in names of sizes and the offsets, and the picks bring in no new names and zero
  offsets. -/

/-- Sizes that have labels can be listed, whatever the size `current'`: only labels may fail. -/
theorem exists_sizeChoices {sizes : List String} {current : Json} {hasCustom : Bool}
    {choices : List Choice} (h : sizeChoices sizes current hasCustom = .ok choices)
    (current' : Json) : ∃ choices', sizeChoices sizes current' hasCustom = .ok choices' := by
  rw [sizeChoices_eq] at h
  obtain ⟨listed, hlisted, -⟩ := bind_eq_ok.1 h
  have hlabels : ∀ place : Option Nat, ∀ m ∈ sizes.zipIdx, ∃ c, sizeChoice place m = .ok c := by
    intro place m hm
    obtain ⟨c, hc⟩ := exists_mapM_ok_iff.1 ⟨listed, hlisted⟩ m hm
    obtain ⟨label, hlabel, -⟩ := bind_eq_ok.1 hc
    exact ⟨_, bind_eq_ok.2 ⟨label, hlabel, rfl⟩⟩
  obtain ⟨listed', hlisted'⟩ := exists_mapM_ok_iff.2 (hlabels _)
  rw [sizeChoices_eq]
  exact ⟨_, bind_eq_ok.2 ⟨listed', hlisted', rfl⟩⟩

/-- Types that have labels can be listed, whatever `media'` is loaded: only labels may fail. -/
theorem exists_typeChoices {o : DriverOptions} {media : LoadedMedia} {types : List Choice}
    (h : typeChoices o media = .ok types) (media' : LoadedMedia) :
    ∃ types', typeChoices o media' = .ok types' := by
  refine exists_mapM_ok_iff.2 fun t ht => ?_
  obtain ⟨c, hc⟩ := exists_mapM_ok_iff.1 ⟨types, h⟩ t ht
  obtain ⟨label, hlabel, -⟩ := bind_eq_ok.1 hc
  exact ⟨_, bind_eq_ok.2 ⟨label, hlabel, rfl⟩⟩

/-- A length is shown as its quotient by an inch, with two decimal places; what may fail is the
    quotient. -/
theorem inches_eq_ok_iff {n : Int} {x : Binary64} :
    inches n = .ok x ↔
      ∃ q, Binary64.quotient? n hundredthsPerInch = some q ∧ q.roundPlaces 2 = x := by
  rw [inches, bind_eq_ok]
  refine exists_congr fun q => and_congr ?_ (Except.ok.injEq _ _).to_iff
  unfold hundredthsToInches
  cases Binary64.quotient? n hundredthsPerInch with
  | none => exact iff_of_false nofun nofun
  | some r => rw [Except.ok.injEq, Option.some.injEq]

/-- A length has inches if a greater one has, as only a quotient that is too large fails. -/
theorem exists_inches {n n' : Int} (hn : 0 ≤ n) (hle : n ≤ n') {x : Binary64}
    (h : inches n' = .ok x) : ∃ y, inches n = .ok y := by
  obtain ⟨q, hq, -⟩ := inches_eq_ok_iff.1 h
  obtain ⟨q', hq'⟩ := Binary64.exists_quotient?_of_le (by decide) hn hle hq
  exact ⟨_, inches_eq_ok_iff.2 ⟨q', hq', rfl⟩⟩

/-- A length that is fitted into bounds is below the upper one, and not negative; so `exists_inches`
    applies to it. -/
theorem clampLength_bounds (low high : Nat) (x : Int) :
    0 ≤ CustomRange.clampLength low high x ∧ CustomRange.clampLength low high x ≤ high := by
  unfold CustomRange.clampLength
  omega

/-- A length can be shown between the bounds `low` and `high` if another one can: both are clamped,
    hence at most the greater bound. -/
theorem exists_lengthInput {name : String} {low high : Nat} {x : Int} {input : NumberInput}
    (h : lengthInput name low high (CustomRange.clampLength low high x) = .ok input) (x' : Int) :
    ∃ input', lengthInput name low high (CustomRange.clampLength low high x') = .ok input' := by
  obtain ⟨least, hleast, h⟩ := bind_eq_ok.1 h
  obtain ⟨most, hmost, -⟩ := bind_eq_ok.1 h
  obtain ⟨hpos, hle⟩ := clampLength_bounds low high x'
  obtain ⟨value, hvalue⟩ := exists_inches hpos hle hmost
  exact ⟨_, bind_eq_ok.2 ⟨least, hleast, bind_eq_ok.2 ⟨most, hmost, bind_eq_ok.2 ⟨value, hvalue, rfl⟩⟩⟩⟩

/-- The inputs of a custom size can be made for any media, if they can be made for some:
    `exists_lengthInput` for both lengths. -/
theorem exists_customInputs {name least most : String} {media : LoadedMedia}
    {inputs : NumberInput × NumberInput} (h : customInputs name least most media = .ok inputs)
    (media' : LoadedMedia) : ∃ inputs', customInputs name least most media' = .ok inputs' := by
  obtain ⟨w, hw, h⟩ := bind_eq_ok.1 h
  obtain ⟨l, hl, -⟩ := bind_eq_ok.1 h
  obtain ⟨w', hw'⟩ := exists_lengthInput hw media'.width
  obtain ⟨l', hl'⟩ := exists_lengthInput hl media'.length
  exact ⟨_, bind_eq_ok.2 ⟨w', hw', bind_eq_ok.2 ⟨l', hl', rfl⟩⟩⟩

/-- The offset that is loaded does not decide whether its input can be made: zero can be written if
    anything can. -/
theorem exists_offsetInput {name : String} {supported : List Json} {x : Int}
    {input : Option NumberInput} (h : offsetInput name supported x = .ok input) :
    ∃ input', offsetInput name supported 0 = .ok input' := by
  unfold offsetInput at h ⊢
  split at h
  · split at h
    · exact ⟨_, if_pos ‹_›⟩
    · obtain ⟨least, hleast, h⟩ := bind_eq_ok.1 h
      obtain ⟨most, hmost, -⟩ := bind_eq_ok.1 h
      rw [if_neg ‹_›]
      obtain ⟨zero, hzero⟩ : ∃ zero, hundredth (.int 0) = .ok zero := ⟨_, rfl⟩
      exact ⟨_, bind_eq_ok.2
        ⟨least, hleast, bind_eq_ok.2 ⟨most, hmost, bind_eq_ok.2 ⟨zero, hzero, rfl⟩⟩⟩⟩
  · cases h

/-- **An editor that can be built can be built for other media**, if these have no offsets: part by
    part, by the lemmas `exists_…` before this one. -/
theorem exists_ofSource {o : DriverOptions} {i : Nat} {before : MediaChooser}
    (h : ofSource o i = .ok before) {ready : List LoadedMedia} {media : LoadedMedia}
    (hready : ready[i]? = some media) (hleft : media.leftOffset = 0) (htop : media.topOffset = 0) :
    ∃ after, ofSource { o with mediaReady := ready } i = .ok after := by
  obtain ⟨source, _, keywords, _, inputs, _, title, _, _, hsource, -, hkeywords, hsizes, hinputs,
    htypes, htitle, hleftBefore, htopBefore, -⟩ := ofSource_eq_ok_iff.1 h
  obtain ⟨sizes', hsizes'⟩ := exists_sizeChoices hsizes media.sizeName
  obtain ⟨types', htypes'⟩ := exists_typeChoices htypes media
  obtain ⟨left', hleft'⟩ := exists_offsetInput hleftBefore
  obtain ⟨top', htop'⟩ := exists_offsetInput htopBefore
  obtain ⟨inputs', hinputs'⟩ : ∃ inputs', (boundsOf keywords).mapM
      (fun b => customInputs ("ready" ++ intText i) b.1 b.2 media) = .ok inputs' := by
    cases hbounds : boundsOf keywords with
    | none => exact ⟨none, rfl⟩
    | some b =>
      rw [hbounds] at hinputs
      obtain ⟨pair, hpair, -⟩ := bind_eq_ok.1 hinputs
      obtain ⟨pair', hpair'⟩ := exists_customInputs hpair media
      exact ⟨some pair', bind_eq_ok.2 ⟨pair', hpair', rfl⟩⟩
  rw [← hleft] at hleft'
  rw [← htop] at htop'
  exact ⟨_, ofSource_eq_ok_iff.2 ⟨source, media, keywords, sizes', inputs', types', title, left',
    top', hsource, itemAt_eq_ok_iff.2 hready, hkeywords, hsizes', hinputs', htypes', htitle, hleft',
    htop', rfl⟩⟩

end MediaChooser

/-! ## After a submission

  The pick is held against the editor that is built after it.  What is shown is what was loaded, so
  that two picks shown by one editor are one pick (`Shown.eq`); hence what the editors show,
  submitted again, loads the same entries. -/

namespace MediaPick

open MediaChooser

variable {p : MediaPick} {s : MediaSize} {o : DriverOptions} {f : Form} {i : Nat} {source : Json}

/-- The entry of a `source` for which the form has a pick, at its place in the new table. -/
theorem ready_after (hgiven : p.Given f i) (hs : MediaSize.lookup p.size = some s)
    (hsource : o.sources[i]? = some source) (hmanual : isManual source = false) :
    (applyMediaForm f o).1.mediaReady[i]? = some (p.loaded s o source) := by
  rw [getElem?_applyMediaForm, hsource, Option.map_some, hmanual]
  rw [if_neg (by decide), submittedEntry_of_given hgiven hs, Option.getD_some]

/-- The tracking that is loaded is the one that was picked, as far as a member of the supported set
    has its keyword. -/
theorem loaded_tracking_iff (hoffered : p.Offered o) (v : Json) :
    (∃ m ∈ membersIn Tracking o.trackingSupported,
      (p.loaded s o source).tracking = some m ∧ Json.string (keyword m) = v) ↔
        v ∈ p.tracking.map Json.string := by
  cases htracking : p.tracking with
  | none =>
    have hloaded : (p.loaded s o source).tracking = none := by rw [loaded, htracking]; rfl
    rw [hloaded]
    exact iff_of_false (fun ⟨_, _, h, _⟩ => by cases h) (fun h => by cases h)
  | some t =>
    obtain ⟨m, hm, rfl⟩ := hoffered.tracking t htracking
    have hloaded : (p.loaded s o source).tracking = some m := by
      rw [loaded, htracking, Option.bind_some, Flags.ofKeyword?_keyword]
    rw [hloaded, Option.map_some, Option.mem_some_iff]
    constructor
    · rintro ⟨m', -, h, hvalue⟩
      cases h
      exact hvalue
    · exact fun h => ⟨m, hm, rfl, h⟩

/-- The type that is loaded is the one that was picked; where none was, it is the empty text, which
    no type is. -/
theorem loaded_type_iff (htypes : Json.string "" ∉ o.types) (hoffered : p.Offered o) (v : Json) :
    v ∈ o.types ∧ v.same (p.loaded s o source).type = true ↔ v ∈ p.type.map Json.string := by
  rw [loaded, Json.same_string_iff]
  cases htype : p.type with
  | none =>
    refine iff_of_false ?_ (fun h => by cases h)
    rintro ⟨hv, rfl⟩
    exact htypes hv
  | some t =>
    rw [Option.map_some, Option.mem_some_iff, Option.getD_some, eq_comm]
    refine and_iff_right_of_imp ?_
    rintro rfl
    exact hoffered.type t htype

/-- **The editor of the source shows the pick**, once the entry of the source is `loaded` with
    it. -/
theorem shown_of_ready (hborderless : o.borderless = true)
    (hmargins : ¬ (o.bottomTop = 0 ∧ o.leftRight = 0)) (htypes : Json.string "" ∉ o.types)
    (hoffered : p.Offered o) (hready : o.mediaReady[i]? = some (p.loaded s o source))
    {c : MediaChooser} (hc : ofSource o i = .ok c) : p.Shown c ∧ c.showCustom = false := by
  obtain ⟨_, media, keywords, sizes, inputs, types, title, left, top, -, hmedia, hkeywords, hsizes,
    -, hchoices, -, -, -, rfl⟩ := ofSource_eq_ok_iff.1 hc
  rw [itemAt_eq_ok_iff, hready] at hmedia
  cases hmedia
  -- the sizes of the driver are all texts, or there would be no chooser
  have hlisted : p.size ∈ standardSizes keywords := by
    have hback : keywords.map Json.string = o.media.map id := by
      refine map_of_mapM_ok hkeywords fun v _ keyword hv => ?_
      cases v <;> cases hv
      rfl
    have hmem := hoffered.listed
    rw [List.map_id] at hback
    rw [← hback, List.mem_map] at hmem
    obtain ⟨size, hsize, heq⟩ := hmem
    cases heq
    rw [standardSizes, List.mem_filter, hoffered.standard]
    exact ⟨hsize, rfl⟩
  obtain ⟨hsize, hcustom⟩ := selected_sizeChoices hsizes hlisted
  refine ⟨⟨hsize, fun v => ?_, fun v => ?_, ?_⟩, hcustom⟩
  · show (∃ choice ∈ trackingChoices o _, _) ↔ _
    rw [selected_trackingChoices]
    exact loaded_tracking_iff hoffered v
  · show (∃ choice ∈ types, _) ↔ _
    rw [selected_typeChoices hchoices]
    exact loaded_type_iff htypes hoffered v
  · show (if o.borderless then _ else none) = _
    rw [if_pos hborderless, isBorderless_loaded hmargins]

/-- What the two controls offer depends on the options alone and not on what is loaded. -/
theorem offered_values {c : MediaChooser} (hc : ofSource o i = .ok c) :
    c.tracking.map (·.value) =
        (membersIn Tracking o.trackingSupported).map (fun m => Json.string (keyword m)) ∧
      c.types.map (·.value) = o.types := by
  obtain ⟨_, media, _, _, _, types, _, _, _, -, -, -, -, -, htypes, -, -, -, rfl⟩ :=
    ofSource_eq_ok_iff.1 hc
  constructor
  · show (trackingChoices o media).map (·.value) = _
    rw [trackingChoices, List.map_map]
    rfl
  · show types.map (·.value) = _
    have hvalues : types.map (·.value) = o.types.map id := by
      refine map_of_mapM_ok htypes fun t _ choice hchoice => ?_
      obtain ⟨label, -, hchoice⟩ := bind_eq_ok.1 hchoice
      cases hchoice
      rfl
    rw [hvalues, List.map_id]

/-- The names of the fields of an editor are those that the form reads for its source
    (`readyField`). -/
theorem name_of_ofSource {c : MediaChooser} (hc : ofSource o i = .ok c) (part : String) :
    c.name ++ "-" ++ part = readyField i part := by
  obtain ⟨_, _, _, _, _, _, _, _, _, -, -, -, -, -, -, -, -, -, rfl⟩ := ofSource_eq_ok_iff.1 hc
  rw [readyField, ← intText_natCast]
  rfl

section Page

variable (hborderless : o.borderless = true) (hmargins : ¬ (o.bottomTop = 0 ∧ o.leftRight = 0))
  (htypes : Json.string "" ∉ o.types)

include hborderless hmargins htypes

/-- The editor of a source shows the pick that the form has for it: `ready_after`, then
    `shown_of_ready`. -/
theorem shown_after (hsource : o.sources[i]? = some source) (hmanual : isManual source = false)
    (hoffered : p.Offered o) (hgiven : p.Given f i) {after : MediaChooser}
    (hafter : ofSource (applyMediaForm f o).1 i = .ok after) :
    p.Shown after ∧ after.showCustom = false := by
  obtain ⟨s, hs⟩ := Option.isSome_iff_exists.1 hoffered.known
  exact shown_of_ready (o := (applyMediaForm f o).1) hborderless hmargins htypes
    ⟨hoffered.listed, hoffered.standard, hoffered.known, hoffered.tracking, hoffered.type⟩
    (ready_after hgiven hs hsource hmanual) hafter

/-- **To submit what is shown changes nothing**, for the sources that a submission of picks set.
    Source by source: what is shown is the pick (`Shown.eq`), and so the second form makes the same
    entry of it. -/
theorem unchanged_after {g : Form}
    (hg : ∀ i source, o.sources[i]? = some source → isManual source = false →
      f.value? (readyField i "size") = none ∧ g.value? (readyField i "size") = none ∨
        ∃ (p q : MediaPick) (after : MediaChooser), p.Offered o ∧ p.Given f i ∧
          ofSource (applyMediaForm f o).1 i = .ok after ∧ q.Shown after ∧ q.Given g i) :
    (applyMediaForm g (applyMediaForm f o).1).1 = (applyMediaForm f o).1 := by
  have hentries : (applyMediaForm g o).1.mediaReady = (applyMediaForm f o).1.mediaReady := by
    refine List.ext_getElem? fun i => ?_
    rw [getElem?_applyMediaForm, getElem?_applyMediaForm]
    refine Option.map_congr fun source hsource => ?_
    cases hmanual : isManual source with
    | true => rfl
    | false =>
      rcases hg i source hsource hmanual with
        ⟨hf, hg⟩ | ⟨p, q, after, hoffered, hgiven, hafter, hq, hagain⟩
      · rw [submittedEntry, submittedEntry, hf, hg]
        rfl
      · obtain ⟨hp, -⟩ :=
          shown_after hborderless hmargins htypes hsource hmanual hoffered hgiven hafter
        obtain ⟨s, hs⟩ := Option.isSome_iff_exists.1 hoffered.known
        cases hp.eq hq
        rw [submittedEntry_of_given hgiven hs, submittedEntry_of_given hagain hs]
  show { o with mediaReady := (applyMediaForm g o).1.mediaReady } = (applyMediaForm f o).1
  rw [hentries]
  rfl

/-- **What is picked on the media page is what the page shows next.** The printer can print
    borderless, has margins otherwise, and names its types.  After a submission that has a pick for
    a source, and no offsets, the editor of the source can be built if it could be before; it shows
    the pick (`MediaPick.Shown`), and not the custom size.  And if a submission consists of such
    picks, then to submit what the editors of their sources show changes nothing. -/
theorem media_page_after_pick (f : Form) :
    -- what is offered
    (∀ (i : Nat) (c : MediaChooser), ofSource o i = .ok c →
      c.tracking.map (·.value) =
          (membersIn Tracking o.trackingSupported).map (fun m => Json.string (keyword m)) ∧
        c.types.map (·.value) = o.types) ∧
    -- one source
    (∀ (i : Nat) (source : Json) (p : MediaPick), o.sources[i]? = some source →
      isManual source = false → p.Offered o → p.Given f i →
        (∀ before, ofSource o i = .ok before →
          ∃ after, ofSource (applyMediaForm f o).1 i = .ok after) ∧
        ∀ after, ofSource (applyMediaForm f o).1 i = .ok after →
          p.Shown after ∧ after.showCustom = false ∧
            ∀ part, after.name ++ "-" ++ part = readyField i part) ∧
    -- all sources
    ∀ g : Form, (∀ i source, o.sources[i]? = some source → isManual source = false →
      f.value? (readyField i "size") = none ∧ g.value? (readyField i "size") = none ∨
        ∃ (p q : MediaPick) (after : MediaChooser), p.Offered o ∧ p.Given f i ∧
          ofSource (applyMediaForm f o).1 i = .ok after ∧ q.Shown after ∧ q.Given g i) →
      (applyMediaForm g (applyMediaForm f o).1).1 = (applyMediaForm f o).1 := by
  refine ⟨fun i c hc => offered_values hc, fun i source p hsource hmanual hoffered hgiven =>
    ⟨fun before hbefore => ?_, fun after hafter => ?_⟩,
    fun g hg => unchanged_after hborderless hmargins htypes hg⟩
  · obtain ⟨s, hs⟩ := Option.isSome_iff_exists.1 hoffered.known
    exact exists_ofSource hbefore (ready_after hgiven hs hsource hmanual) rfl rfl
  · obtain ⟨hp, hcustom⟩ :=
      shown_after hborderless hmargins htypes hsource hmanual hoffered hgiven hafter
    exact ⟨hp, hcustom, name_of_ofSource hafter⟩

end Page

/-- Photo labels with a mark, loaded in the first roll of the label printer, and nothing in the
    second one. -/
theorem media_page_after_pick_photo_labels :
    let p : MediaPick := ⟨"oe_photo-l_3.5x5in", some "mark", some "continuous", true⟩
    let f : Form := ⟨[("ready0-size", some "oe_photo-l_3.5x5in"), ("ready0-borderless", some "on"),
      ("ready0-tracking", some "mark"), ("ready0-type", some "continuous")]⟩
    ∃ after, ofSource (applyMediaForm f .labelPrinter).1 (0 : Nat) = .ok after ∧ p.Shown after ∧
      after.showCustom = false ∧ p.Given f 0 ∧
      (applyMediaForm f (applyMediaForm f .labelPrinter).1).1 = (applyMediaForm f .labelPrinter).1 := by
  intro p f
  have hgiven : p.Given f 0 := ⟨by decide, by decide, by decide, by decide, by decide, by decide⟩
  have hoffered : p.Offered .labelPrinter :=
    ⟨by simp [p, labelPrinter], by decide, by decide,
      fun t ht => ⟨.mark, by decide, Option.some.inj ht⟩,
      fun t ht => by cases ht; simp [labelPrinter]⟩
  obtain ⟨before, hbefore⟩ : ∃ before, ofSource labelPrinter (0 : Nat) = .ok before :=
    exists_eq_ok (by decide +kernel)
  obtain ⟨-, hone, hall⟩ := media_page_after_pick (o := labelPrinter) rfl (by decide)
    (by simp [labelPrinter]) f
  obtain ⟨hexists, hshown⟩ := hone 0 (.string "main-roll") p rfl (by decide) hoffered hgiven
  obtain ⟨after, hafter⟩ := hexists before hbefore
  obtain ⟨hp, hcustom, -⟩ := hshown after hafter
  refine ⟨after, hafter, hp, hcustom, hgiven, hall f fun i source hsource hmanual => ?_⟩
  match i with
  | 0 => exact .inr ⟨p, p, after, hoffered, hgiven, hafter, hp, hgiven⟩
  | 1 => exact .inl (by decide)
  | 2 =>
    cases hsource
    cases hmanual
  | i + 3 => cases hsource

end MediaPick

end PrinterConsole
