/-
  The controls of the media page: one editor for the media loaded in each source.

  A custom size can be entered when the printer announces both bounds of its range, as two of its
  media keywords (`findCustomRange`); the inputs then hold the current size, clamped into the
  range.  The option for it, `customChoices`, is the first of the sizes, and it is selected when
  the current size is none of those to choose from.

  `ofSource` makes the editor of one source and `all` those of every source but the manual feed;
  an editor keeps the number of its source in the names of its fields, so a submission is read by
  `DriverOptions.submittedEntry` from the fields that begin with the same name.
-/
import PrinterConsole.Control.Choice
import PrinterConsole.Driver.Options

namespace PrinterConsole

open PrinterConsole.Number Vocabulary

/-- The editor of the `LoadedMedia` in one source. -/
structure MediaChooser where
  /-- What the names of its fields begin with. -/
  name : String
  title : String
  sizes : List Choice
  customWidth : Option NumberInput
  customLength : Option NumberInput
  /-- The custom size is selected, so its inputs are shown. -/
  showCustom : Bool
  /-- Whether printing is borderless, if the printer can do that. -/
  borderless : Option Bool
  leftOffset : Option NumberInput
  topOffset : Option NumberInput
  tracking : List Choice
  types : List Choice

namespace MediaChooser

/-- Whether a custom size can be entered: `ofSource` gives its two inputs together or not at all. -/
def hasCustom (c : MediaChooser) : Bool := c.customWidth.isSome

def hasOffsets (c : MediaChooser) : Bool := c.leftOffset.isSome || c.topOffset.isSome

/-! ## Sizes -/

/-- The label of the custom size. -/
def customLabel : String := "Custom Size"

/-- The option for the custom size, if it can be entered; its value is `customChoice`. -/
def customChoices (hasCustom selected : Bool) : List Choice :=
  if hasCustom then
    [{ value := .string customChoice, label := customLabel, selected := selected }]
  else []

/-- The size options: the custom size if it can be entered, then the sizes to choose from.  Selected
    is the current size if it is one of them, by its first place there (`findIdx?`); else the custom
    size, or the first size if there is no custom size. -/
def sizeChoices (sizes : List String) (current : Json) (hasCustom : Bool) :
    Except Fault (List Choice) := do
  let place := sizes.findIdx? fun s => (Json.string s).same current
  let selected := if hasCustom then place else place.or (some 0)
  let listed ← sizes.zipIdx.mapM fun (size, index) => do
    return {
      value := .string size
      label := ← Label.ofKeyword "media" size
      selected := selected == some index : Choice }
  return customChoices hasCustom place.isNone ++ listed

/-- A size keyword of the driver, which must be a `Json.string`: keywords are searched for their
    beginning. -/
def sizeKeyword : Json → Except Fault String
  | .string s => .ok s
  | _ => .error .notText

/-! ## Number inputs -/

/-- Hundredths of a millimetre as inches with two decimal places, a tie going to the even digit
    (`Binary64.roundPlaces`). -/
def inches (n : Int) : Except Fault Binary64 := do
  return (← hundredthsToInches n).roundPlaces 2

/-- An input for a length between the lengths `low` and `high`, all three given in hundredths of a
    millimetre. -/
def lengthInput (name : String) (low high value : Int) : Except Fault NumberInput := do
  return {
    name := name
    minimum := ← inches low
    maximum := ← inches high
    value := ← inches value }

/-- A hundredth of the number `v`, of whatever kind. -/
def hundredth (v : Json) : Except Fault Binary64 :=
  match v with
  | .int n => whole n
  | .bool b => whole (Json.wholeOfBool b)
  | .float x => .ok (x.divNat 100)
  | _ => .error .notNumber
where
  whole (n : Int) : Except Fault Binary64 :=
    match Binary64.ofInt? n with
    | some x => .ok (x.divNat 100)
    | none => .error .tooLarge

/-- An input for an offset, if the greatest `supported` offset is set.  Offsets are kept in
    hundredths of a millimetre and shown in millimetres. -/
def offsetInput (name : String) (supported : List Json) (value : Int) :
    Except Fault (Option NumberInput) :=
  match supported with
  | low :: high :: _ =>
    if !high.truthy then .ok none
    else do
      return some {
        name := name
        minimum := ← hundredth low
        maximum := ← hundredth high
        value := ← hundredth (.int value) }
  | _ => .error .noSuchItem

/-! ## The editor -/

/-- The item at the place `index`; a negative place counts from the end. -/
def itemAt {α : Type} (items : List α) (index : Int) : Except Fault α :=
  let place := if index < 0 then index + items.length else index
  if place < 0 then .error .noSuchItem
  else match items[place.toNat]? with
    | some x => .ok x
    | none => .error .noSuchItem

/-- The inputs of a custom size: for its width and its length.  Each runs between the bounds of the
    range (`CustomRange.ofKeywords`) and holds the current size as `CustomRange.clamp` brings it
    there. -/
def customInputs (name least most : String) (media : LoadedMedia) :
    Except Fault (NumberInput × NumberInput) := do
  let range := CustomRange.ofKeywords least most
  let (width, length) := range.clamp media.width media.length
  let w ← lengthInput (name ++ "-custom-width") range.minWidth range.maxWidth width
  let l ← lengthInput (name ++ "-custom-length") range.minLength range.maxLength length
  return (w, l)

/-- The tracking options of the printer options `o`: its supported ones, none if none is noted. -/
def trackingChoices (o : DriverOptions) (media : LoadedMedia) : List Choice :=
  (membersIn Tracking o.trackingSupported).map
    (Choice.ofMember "media-tracking" fun t => some t == media.tracking)

/-- The media types of a printer, labelled as keywords of `media-type`. -/
def typeChoices (o : DriverOptions) (media : LoadedMedia) : Except Fault (List Choice) :=
  o.types.mapM fun type => do
    return {
      value := type
      label := ← Label.ofJson "media-type" type
      selected := type.same media.type }

/-- The editor of the source at the place `index`.  The custom size is shown exactly when it can be
    entered and its option, the first one, is selected. -/
def ofSource (o : DriverOptions) (index : Int) : Except Fault MediaChooser := do
  let source ← itemAt o.sources index
  let media ← itemAt o.mediaReady index
  let name := "ready" ++ intText index
  let keywords ← o.media.mapM sizeKeyword
  let bounds := match findCustomRange keywords with
    | (some least, some most) => some (least, most)
    | _ => none
  let sizes ← sizeChoices (standardSizes keywords) media.sizeName bounds.isSome
  let inputs ← bounds.mapM fun (least, most) => customInputs name least most media
  let types ← typeChoices o media
  let title ← Label.ofJson "media-source" source
  let left ← offsetInput (name ++ "-left-offset") o.leftOffsetSupported media.leftOffset
  let top ← offsetInput (name ++ "-top-offset") o.topOffsetSupported media.topOffset
  return {
    name := name
    title := title
    sizes := sizes
    customWidth := inputs.map (·.1)
    customLength := inputs.map (·.2)
    showCustom := bounds.isSome && (sizes.head?.map (·.selected)).getD false
    borderless := if o.borderless then some media.isBorderless else none
    leftOffset := left
    topOffset := top
    tracking := trackingChoices o media
    types := types }

/-- The editors (`ofSource`) of all sources except the manual feed, which keep the places they have
    among all sources. -/
def all (o : DriverOptions) : Except Fault (List MediaChooser) :=
  (o.sources.zipIdx.filter fun p => !isManual p.1).mapM fun p => ofSource o (p.2 : Int)

end MediaChooser

end PrinterConsole
