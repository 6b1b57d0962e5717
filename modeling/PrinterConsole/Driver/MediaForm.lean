/-
  The media form: a submission as the loaded media of every source.

  The whole table is made anew.  A source whose size field is missing is left unconfigured, and so
  is the manual feed; the entry of any other source depends on its own fields, on its keyword and
  on the margins of the printer alone (`submittedEntry`).

  A size that does not read as one leaves the entry without a size; only a size whose dimensions
  leave the range of products is a fault, and then the submission changes nothing.
  `applyMediaForm` is what the submission does, and `submitMediaForm` that, once no size of an
  offered source overflows.

  Main statement: there is one entry for each source (`aligned_applyMediaForm`), whatever was
  there before, so an edit by this form is always kept.
-/
import PrinterConsole.Driver.Options
import PrinterConsole.Form.Basic
import PrinterConsole.Form.Value

namespace PrinterConsole.DriverOptions

open PrinterConsole.Number

/-- Offsets are submitted in millimetres and kept in hundredths of one. -/
def offsetScale : Nat := 100

/-- The name of a field of the source at `index`, as `MediaChooser.ofSource` names it. -/
def readyField (index : Nat) (part : String) : String := "ready" ++ natText index ++ "-" ++ part

/-- Size name, width and length of a custom size that was submitted for the place `index`, if both
    lengths are usable.  The name holds the lengths as they were submitted, in inches, the numbers
    those in hundredths of a millimetre. -/
def customSize (f : Form) (index : Nat) (source : Json) : Option (String × Int × Int) := do
  let (w, width) ← (f.value? (readyField index "custom-width")).bind
    (Form.measurement hundredthsPerInch)
  let (l, length) ← (f.value? (readyField index "custom-length")).bind
    (Form.measurement hundredthsPerInch)
  return (customSizeName source.shown w l, width, length)

/-- Size name, width and length of a submitted size, if there is such a size: the custom one for
    `customChoice`, else the one that the name describes (`MediaSize.lookup`). -/
def submittedSize (f : Form) (index : Nat) (source : Json) (size : String) :
    Option (String × Int × Int) :=
  if size = customChoice then customSize f index source
  else (MediaSize.lookup size).map fun s => (size, (s.width : Int), (s.length : Int))

/-- The offset submitted in the field `part`; zero if it is absent or unusable. -/
def submittedOffset (f : Form) (index : Nat) (part : String) : Int :=
  (((f.value? (readyField index part)).bind (Form.measurement offsetScale)).map (·.2)).getD 0

/-- The entry of the source at `index`, if its size field is present.  Margins come from the
    printer, not from the form, and are zero for borderless printing; the box for that is on if its
    field is there, whatever its text. -/
def submittedEntry (f : Form) (bottomTop leftRight : Int) (index : Nat) (source : Json) :
    Option LoadedMedia :=
  (f.value? (readyField index "size")).map fun size =>
    let (name, width, length) := (submittedSize f index source size).getD ("", 0, 0)
    let borderless := f.has (readyField index "borderless")
    let vertical := if borderless then 0 else bottomTop
    let horizontal := if borderless then 0 else leftRight
    { sizeName := .string name
      width := width
      length := length
      bottomMargin := vertical
      leftMargin := horizontal
      rightMargin := horizontal
      topMargin := vertical
      leftOffset := submittedOffset f index "left-offset"
      topOffset := submittedOffset f index "top-offset"
      source := source
      tracking := (f.value? (readyField index "tracking")).bind Vocabulary.ofKeyword?
      type := .string ((f.value? (readyField index "type")).getD "") }

/-- The entry of each source that the form configures, beside the source (`submittedEntry`). -/
def submittedEntries (f : Form) (o : DriverOptions) : List (Json × Option LoadedMedia) :=
  o.sources.zipIdx.map fun (source, index) =>
    (source,
     if isManual source then none
     else submittedEntry f o.bottomTop o.leftRight index source)

/-- The options after a submission of the media form, and the sources it configured.  An
    unconfigured source gets `LoadedMedia.empty`. -/
def applyMediaForm (f : Form) (o : DriverOptions) : DriverOptions × List Json :=
  let entries := submittedEntries f o
  ({ o with mediaReady := entries.map fun e => e.2.getD .empty },
   (entries.filter fun e => e.2.isSome).map (·.1))

/-- The size field of the source at `index` has dimensions that leave their range
    (`MediaSize.overflows`). -/
def sizeOverflows (f : Form) (index : Nat) : Bool :=
  (f.value? (readyField index "size")).any MediaSize.overflows

/-- Submits the media form, unless a size `overflows`.  The manual feed's size is not read. -/
def submitMediaForm (f : Form) (o : DriverOptions) : Except Fault (DriverOptions × List Json) :=
  if o.sources.zipIdx.any fun entry => !isManual entry.1 && sizeOverflows f entry.2 then
    .error .tooLarge
  else .ok (applyMediaForm f o)

/-- The table has one entry for each source, since `submittedEntries` is a map over the sources. -/
theorem aligned_applyMediaForm (f : Form) (o : DriverOptions) : (applyMediaForm f o).1.Aligned := by
  simp [applyMediaForm, submittedEntries, Aligned]

end PrinterConsole.DriverOptions
