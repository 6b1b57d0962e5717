/-
  The print defaults form: a submission as a change of job defaults.

  Every field is optional.  A field that is absent, or whose text names nothing, changes nothing;
  values are not checked against what the printer supports.  A submitted source puts the media
  that are loaded in it as the default media.

  The form is first read as a `DefaultsChange` (`ofForm`), in which `none` asks for nothing; the
  media of the submitted source are then looked up in the options (`mediaFor`), and only then is
  anything changed, by `applyWith`.  Reading and looking up may fail, `applyWith` cannot, so a
  submission changes all it asks for or nothing.  What it wrote is told by `written`, which may
  name a default that was written with the value it had.
-/
import PrinterConsole.Driver.Options
import PrinterConsole.Form.Basic
import PrinterConsole.Form.Value

namespace PrinterConsole.DriverOptions

/-- The defaults that a form can change. -/
inductive Default where
  | orientation | color | content | darkness | quality | scaling | speed | sides | resolution
  | media
  deriving DecidableEq, Repr

/-- The key of a `Default` in saved options; a resolution has one key for both directions. -/
def Default.key : Default → String
  | .orientation => "orient_default"
  | .color => "color_default"
  | .content => "content_default"
  | .darkness => "darkness_configured"
  | .quality => "quality_default"
  | .scaling => "scaling_default"
  | .speed => "speed_default"
  | .sides => "sides_default"
  | .resolution => "resolution_default"
  | .media => "media_default"

/-- Speeds are submitted in inches and kept in hundredths of a millimetre, `2540` of them an
    inch. -/
def speedScale : Int := 2540

/-- What a form changes: `none` keeps a default, `some` overwrites it. -/
structure DefaultsChange where
  orientation : Option Int
  color : Option ColorMode
  content : Option Content
  darkness : Option Int
  quality : Option Quality
  scaling : Option Scaling
  speed : Option Int
  sides : Option Sides
  resolution : Option (Int × Int)
  /-- The submitted source keyword, if the field is present. -/
  source : Option Json

namespace DefaultsChange

/-- A whole number at the start of a field's text (`Form.leadingInt`). -/
def wholeField (f : Form) (name : String) : Except Fault (Option Int) :=
  match f.value? name with
  | some text => Form.leadingInt text
  | none => .ok none

/-- A keyword field, in any case and spacing (`Vocabulary.ofKeyword?`); it cannot fail. -/
def keywordField {α : Type} [Vocabulary α] (f : Form) (name : String) : Option α :=
  (f.value? name).bind Vocabulary.ofKeyword?

/-- The field `printer-resolution`, as one value for both directions. -/
def resolutionField (f : Form) : Except Fault (Option (Int × Int)) :=
  match f.value? "printer-resolution" with
  | some text => Form.resolution text
  | none => .ok none

/-- The `DefaultsChange` that a form asks for.  Of the fields only whole numbers and the resolution
    can fail, by a digit run that is too long, and they are read in this order. -/
def ofForm (f : Form) : Except Fault DefaultsChange := do
  return {
    orientation := ← wholeField f "orientation-requested"
    color := keywordField f "print-color-mode"
    content := keywordField f "print-content-optimize"
    darkness := ← wholeField f "print-darkness"
    quality := keywordField f "print-quality"
    scaling := keywordField f "print-scaling"
    speed := (← wholeField f "print-speed").map (· * speedScale)
    sides := keywordField f "sides"
    resolution := ← resolutionField f
    source := (f.field? "media-source").map fun v => v.elim .null .string }

/-- The media that a submitted source stands for, if it is a source of the printer.  A source with
    no entry of ready media is a fault, which cannot happen to options that are `Aligned`. -/
def mediaFor (c : DefaultsChange) (o : DriverOptions) : Except Fault (Option LoadedMedia) :=
  match c.source.bind o.sourceIndex? with
  | none => .ok none
  | some index =>
    match o.mediaReady[index]? with
    | some m => .ok (some m)
    | none => .error .noSuchItem

/-- The options `o` after a change, given the media of the submitted source.  Only fields of
    defaults are set, hence what the printer supports stays. -/
def applyWith (c : DefaultsChange) (media : Option LoadedMedia) (o : DriverOptions) :
    DriverOptions :=
  { o with
    orientationDefault := c.orientation.getD o.orientationDefault
    colorDefault := c.color.getD o.colorDefault
    contentDefault := c.content.getD o.contentDefault
    darknessConfigured := c.darkness.getD o.darknessConfigured
    qualityDefault := (c.quality.map fun q => (Vocabulary.code q : Int)).getD o.qualityDefault
    scalingDefault := c.scaling.getD o.scalingDefault
    speedDefault := c.speed.getD o.speedDefault
    sidesDefault := c.sides.getD o.sidesDefault
    xDefault := (c.resolution.map (·.1)).getD o.xDefault
    yDefault := (c.resolution.map (·.2)).getD o.yDefault
    mediaDefault := media.getD o.mediaDefault }

/-- The defaults that the change `c` writes, given the `media` of the submitted source, in the order
    in which the form is read. -/
def written (c : DefaultsChange) (media : Option LoadedMedia) : List Default :=
  (if c.orientation.isSome then [Default.orientation] else []) ++
  (if c.color.isSome then [Default.color] else []) ++
  (if c.content.isSome then [Default.content] else []) ++
  (if c.darkness.isSome then [Default.darkness] else []) ++
  (if c.quality.isSome then [Default.quality] else []) ++
  (if c.scaling.isSome then [Default.scaling] else []) ++
  (if c.speed.isSome then [Default.speed] else []) ++
  (if c.sides.isSome then [Default.sides] else []) ++
  (if c.resolution.isSome then [Default.resolution] else []) ++
  (if media.isSome then [Default.media] else [])

end DefaultsChange

/-- The options `o` after a submission of the print defaults form, and the defaults it wrote. -/
def applyDefaultsForm (f : Form) (o : DriverOptions) :
    Except Fault (DriverOptions × List Default) := do
  let c ← DefaultsChange.ofForm f
  let media ← c.mediaFor o
  return (c.applyWith media o, c.written media)

end PrinterConsole.DriverOptions
