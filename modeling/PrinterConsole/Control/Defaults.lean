/-
  The controls of the print defaults page.

  Which options exist, which one is selected and how they are labelled is decided here, from the
  driver options alone.  A control that has nothing to choose from is empty or a fixed text.

  The keyword controls are all one filter of a vocabulary, `membersIn`, with the options made by
  `Choice.ofMember`; they differ in what they offer at the edges: `colorControl` leaves out
  `autoMonochrome` and is a fixed text for two sets, `sidesChoices` is empty where nothing is to
  be chosen, and an unset set of `contentChoices` and `scalingChoices` stands for all members
  (`orAll`).  Only sources, speeds and resolutions can fail, since their values come from a driver
  as JSON.
-/
import PrinterConsole.Control.Choice
import PrinterConsole.Driver.DefaultsForm
import PrinterConsole.Driver.Options

namespace PrinterConsole.DriverOptions

open PrinterConsole.Number Vocabulary

/-! ## Media source -/

/-- The default media: one option for each source except the manual feed.  The label names the
    source as well as soon as two of the loaded media are twins (`LoadedMedia.hasTwins`). -/
def sourceChoices (o : DriverOptions) : Except Fault (List Choice) := do
  let withSource := LoadedMedia.hasTwins o.mediaReady
  let offered := (o.sources.zip o.mediaReady).filter fun p => !isManual p.1
  offered.mapM fun (source, media) => do
    return {
      value := source
      label := ← media.label withSource
      selected := source.same o.mediaDefault.source }

/-! ## Groups of buttons -/

/-- The wording of an `Orientation`. -/
def orientationLabel : Orientation → String
  | .portrait => "Portrait"
  | .landscape => "Landscape"
  | .reverseLandscape => "Reverse Landscape"
  | .reversePortrait => "Reverse Portrait"
  | .none => "Auto"

/-- A sheet with a turned letter on it, encoded for a URL; `x`, `y` and `rotate` place the letter so
    that it stands at the edge the orientation puts first. -/
def glyph (x y : Nat) (rotate : Int) (letter : String) : String :=
  "%3csvg xmlns='http://www.w3.org/2000/svg' width='18' height='24' viewBox='0 0 18 24'%3e" ++
  "%3crect fill='rgba(255,255,255,.5)' stroke='currentColor' stroke-width='1' " ++
  "x='0' y='0' width='18' height='24' rx='5' ry='5'/%3e" ++
  "%3ctext x='" ++ natText x ++ "' y='" ++ natText y ++
  "' font-size='18' fill='currentColor' rotate='" ++ intText rotate ++ "'%3e" ++ letter ++
  "%3c/text%3e%3c/svg%3e"

/-- The image of an `Orientation`. -/
def orientationGlyph : Orientation → String
  | .portrait => glyph 3 18 0 "A"
  | .landscape => glyph 15 19 (-90) "A"
  | .reverseLandscape => glyph 3 6 90 "A"
  | .reversePortrait => glyph 15 7 180 "A"
  | .none => glyph 5 18 0 "?"

/-- All orientations, whatever the printer: the value is the `code` of the orientation, not a
    keyword. -/
def orientationChoices (o : DriverOptions) : List Choice :=
  (members : List Orientation).map fun m =>
    { value := .string (natText (code m))
      label := orientationLabel m
      selected := o.orientationDefault == (code m : Int)
      image := some (orientationGlyph m) }

/-- The supported sets of a printer for black and white alone: with and without `autoMonochrome`. -/
def monochromeSets : List Int :=
  [setOf [ColorMode.auto, .monochrome], setOf [ColorMode.auto, .monochrome, .autoMonochrome]]

/-- The text of the color control of a printer for black and white alone. -/
def monochromeLabel : String := "B&W"

/-- The color modes: all supported ones except `autoMonochrome`, the automatic choice of
    monochrome. -/
def colorControl (o : DriverOptions) : Control :=
  if monochromeSets.contains o.colorSupported then { fixedLabel := some monochromeLabel }
  else
    let offered := (membersIn ColorMode o.colorSupported).filter (· != .autoMonochrome)
    { choices := offered.map (Choice.ofMember "print-color-mode" (· == o.colorDefault)) }

/-- Sides are offered when more than one side is supported; a set without any side, or with
    `oneSided` alone, leaves nothing to choose. -/
def sidesChoices (o : DriverOptions) : List Choice :=
  if o.sidesSupported == 0 || o.sidesSupported == (code Sides.oneSided : Int) then []
  else (membersIn Sides o.sidesSupported).map (Choice.ofMember "sides" (· == o.sidesDefault))

/-- All qualities, whatever the printer.  The saved default is a number, so it is compared with the
    `code`. -/
def qualityChoices (o : DriverOptions) : List Choice :=
  (members : List Quality).map
    (Choice.ofMember "print-quality" fun q => (code q : Int) == o.qualityDefault)

/-! ## Lists -/

/-- The percents of `n` darkness steps, from 0 to 100, each rounded down.  A single step is 0. -/
def darknessPercents (n : Nat) : List Nat :=
  if n = 1 then [0] else (List.range n).map fun step => 100 * step / (n - 1)

/-- The darkness steps of the options `o` as percents.  None is selected if the saved darkness is no
    step. -/
def darknessChoices (o : DriverOptions) : List Choice :=
  (darknessPercents o.darknessSupported.toNat).map fun (percent : Nat) =>
    { value := .string (natText percent)
      label := natText percent ++ "%"
      selected := (percent : Int) == o.darknessConfigured }

/-- The speeds from `low` to `high`, `speedScale` (an inch) apart, that are positive. -/
def speedsFrom (low high : Int) : List Int :=
  let count := if low ≤ high then ((high - low) / speedScale).toNat + 1 else 0
  ((List.range count).map fun (k : Nat) => low + speedScale * (k : Int)).filter (0 < ·)

/-- The option for a speed, in whole inches rounded down, unless it has too many inches to be
    written (`isWritable`). -/
def speedChoice (o : DriverOptions) (speed : Int) : Except Fault Choice :=
  let inches := speed / speedScale
  if isWritable inches then
    let unit := if 2 * speedScale ≤ speed then "inches" else "inch"
    .ok {
      value := .string (intText inches)
      label := intText inches ++ " " ++ unit ++ "/sec"
      selected := speed == o.speedDefault }
  else .error .unwritableNumber

/-- A bound of a range: a whole number, or a truth value, which counts as one
    (`Json.wholeOfBool`). -/
def rangeBound : Json → Except Fault Int
  | .int n => .ok n
  | .bool b => .ok (Json.wholeOfBool b)
  | _ => .error .notNumber

/-- The speeds of the options `o`: automatic, and those from the slowest supported one on, an inch
    apart (`speedScale`).  A range whose end is not set offers nothing, and its beginning is then
    not even looked at. -/
def speedChoices (o : DriverOptions) : Except Fault (List Choice) :=
  match o.speedSupported with
  | [low, high] =>
    if !high.truthy then .ok []
    else do
      let low ← rangeBound low
      let high ← rangeBound high
      let speeds ← (speedsFrom low high).mapM (speedChoice o)
      return { value := .string "0", label := "Auto", selected := o.speedDefault == 0 } :: speeds
  | _ => .error .wrongCount

/-- An empty set stands for all members (`fullSet`). -/
def orAll (α : Type) [Vocabulary α] (set : Int) : Int := if set == 0 then fullSet α else set

/-- The content optimizations of the options `o`: the supported ones, or all if none is noted. -/
def contentChoices (o : DriverOptions) : List Choice :=
  (membersIn Content (orAll Content o.contentSupported)).map
    (Choice.ofMember "print-content-optimize" (· == o.contentDefault))

/-- The scalings of the options `o`: the supported ones, or all if none is noted. -/
def scalingChoices (o : DriverOptions) : List Choice :=
  (membersIn Scaling (orAll Scaling o.scalingSupported)).map
    (Choice.ofMember "print-scaling" (· == o.scalingDefault))

/-- The text of a supported resolution (`Form.resolutionText`) with its two parts, which must be
    two. -/
def resolutionParts : List Json → Except Fault (String × Json × Json)
  | [x, y] => (Form.resolutionText x y).map fun text => (text, x, y)
  | _ => .error .wrongCount

/-- The resolutions: a fixed text if there is only one.  An option is selected by its numbers
    (`Json.same`), not by its text. -/
def resolutionControl (o : DriverOptions) : Except Fault Control :=
  match o.resolutions with
  | [only] => do
    let (text, _) ← resolutionParts only
    return { fixedLabel := some text }
  | several => do
    let choices ← several.mapM fun r => do
      let (text, x, y) ← resolutionParts r
      return {
        value := .string text
        label := text
        selected := (Json.int o.xDefault).same x && (Json.int o.yDefault).same y : Choice }
    return { choices := choices }

/-! ## The page -/

/-- The controls of the print defaults page, each a list of `Choice`s or a `Control`. -/
structure DefaultsPage where
  sources : List Choice
  orientations : List Choice
  colorMode : Control
  sides : List Choice
  qualities : List Choice
  darkness : List Choice
  speeds : List Choice
  contents : List Choice
  scalings : List Choice
  resolution : Control

/-- The controls for the options `o`.  The first of the three lists that fails makes the whole page
    fail. -/
def defaultsPage (o : DriverOptions) : Except Fault DefaultsPage := do
  return {
    sources := ← sourceChoices o
    orientations := orientationChoices o
    colorMode := colorControl o
    sides := sidesChoices o
    qualities := qualityChoices o
    darkness := darknessChoices o
    speeds := ← speedChoices o
    contents := contentChoices o
    scalings := scalingChoices o
    resolution := ← resolutionControl o }

end PrinterConsole.DriverOptions
