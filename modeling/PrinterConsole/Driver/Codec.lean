/-
  The record of driver options: the form in which they are saved and loaded.

  Flag sets are written as lists of keywords and defaults as keywords; an absent or unset member
  stands for the default of its field.  Loaded ready media are fitted to the loaded sources.

  `record` names every field once and `ofJson` reads the same keys, each by one of four readers:
  `setOr` for flag sets, `memberOr` for members of a vocabulary, `wholeOr` for whole numbers and
  `itemsOr` for lists.  What an empty flag set means depends on the field it is read for, so a set
  that was saved empty comes back as the default of its field.
-/
import PrinterConsole.Driver.Options

namespace PrinterConsole.DriverOptions

open Vocabulary

/-! ## Writing -/

/-- A set of flags as a list of keywords (`keywordsOf`); bits outside the vocabulary are lost. -/
def setJson (α : Type) [Vocabulary α] (set : Int) : Json :=
  .array ((keywordsOf α set).map .string)

/-- The members of the record of the driver options `o`, in the order in which they are saved. -/
def record (o : DriverOptions) : List (String × Json) :=
  [("color_supported", setJson ColorMode o.colorSupported),
   ("color_default", .string (keyword o.colorDefault)),
   ("sides_supported", setJson Sides o.sidesSupported),
   ("sides_default", .string (keyword o.sidesDefault)),
   ("content_supported", setJson Content o.contentSupported),
   ("content_default", .string (keyword o.contentDefault)),
   ("scaling_supported", setJson Scaling o.scalingSupported),
   ("scaling_default", .string (keyword o.scalingDefault)),
   ("tracking_supported", setJson Tracking o.trackingSupported),
   ("quality_default", .int o.qualityDefault),
   ("orient_default", .int o.orientationDefault),
   ("darkness_configured", .int o.darknessConfigured),
   ("darkness_supported", .int o.darknessSupported),
   ("speed_default", .int o.speedDefault),
   ("speed_supported", .array o.speedSupported),
   ("x_default", .int o.xDefault),
   ("y_default", .int o.yDefault),
   ("resolutions", .array (o.resolutions.map .array)),
   ("media", .array o.media),
   ("types", .array o.types),
   ("sources", .array o.sources),
   ("media_ready", .array (o.mediaReady.map LoadedMedia.toJson)),
   ("media_default", o.mediaDefault.toJson),
   ("borderless", .bool o.borderless),
   ("bottom_top", .int o.bottomTop),
   ("left_right", .int o.leftRight),
   ("left_offset_supported", .array o.leftOffsetSupported),
   ("top_offset_supported", .array o.topOffsetSupported),
   ("has_supplies", .bool o.hasSupplies)]

/-- The `record` of driver options as one value. -/
def toJson (o : DriverOptions) : Json := .object o.record

/-! ## Reading -/

/-- A set of flags of a record; the empty set stands for `default`, as an absent member does. -/
def setOr (α : Type) [Vocabulary α] [BEq α] (r : List (String × Json)) (key : String)
    (default : Int) : Except Fault Int := do
  let set ← setOfJson α (Json.memberD r key .null)
  return if set = 0 then default else set

/-- A member of a vocabulary of a record; an unknown keyword stands for `default`. -/
def memberOr {α : Type} [Vocabulary α] (r : List (String × Json)) (key : String) (default : α) :
    Except Fault α := do
  return (← ofJson? (Json.memberD r key (.string ""))).getD default

/-- A whole number of a record, by `Json.toWhole`; only an absent member stands for `default`. -/
def wholeOr (r : List (String × Json)) (key : String) (default : Int) : Except Fault Int :=
  (Json.memberD r key (.int default)).toWhole

/-- A list of a record, by `Json.toItems`; only an absent member stands for `default`. -/
def itemsOr (r : List (String × Json)) (key : String) (default : List Json) :
    Except Fault (List Json) :=
  (Json.memberD r key (.array default)).toItems

/-- The options of a record.  The members are read in the order of the fields, and the first that
    cannot be read is what is told; at the end the ready media are fitted to the sources
    (`align`). -/
def ofJson (v : Json) : Except Fault DriverOptions := do
  let r ← v.toRecord
  let d : DriverOptions := {}
  let o : DriverOptions := {
    colorSupported := ← setOr ColorMode r "color_supported" d.colorSupported
    colorDefault := ← memberOr r "color_default" d.colorDefault
    sidesSupported := ← setOr Sides r "sides_supported" d.sidesSupported
    sidesDefault := ← memberOr r "sides_default" d.sidesDefault
    contentSupported := ← setOr Content r "content_supported" d.contentSupported
    contentDefault := ← memberOr r "content_default" d.contentDefault
    scalingSupported := ← setOr Scaling r "scaling_supported" d.scalingSupported
    scalingDefault := ← memberOr r "scaling_default" d.scalingDefault
    trackingSupported := ← setOr Tracking r "tracking_supported" d.trackingSupported
    qualityDefault := ← wholeOr r "quality_default" d.qualityDefault
    orientationDefault := ← wholeOr r "orient_default" d.orientationDefault
    darknessConfigured := ← wholeOr r "darkness_configured" d.darknessConfigured
    darknessSupported := ← wholeOr r "darkness_supported" d.darknessSupported
    speedDefault := ← wholeOr r "speed_default" d.speedDefault
    speedSupported := ← itemsOr r "speed_supported" d.speedSupported
    xDefault := ← wholeOr r "x_default" d.xDefault
    yDefault := ← wholeOr r "y_default" d.yDefault
    resolutions := ←
      (do (← itemsOr r "resolutions" (d.resolutions.map .array)).mapM Json.toItems)
    media := ← itemsOr r "media" d.media
    types := ← itemsOr r "types" d.types
    sources := ← itemsOr r "sources" d.sources
    mediaReady := ← (do (← itemsOr r "media_ready" []).mapM LoadedMedia.ofJson)
    mediaDefault := ← LoadedMedia.ofJson (Json.memberD r "media_default" (.object []))
    borderless := (Json.memberD r "borderless" (.bool d.borderless)).truthy
    bottomTop := ← wholeOr r "bottom_top" d.bottomTop
    leftRight := ← wholeOr r "left_right" d.leftRight
    leftOffsetSupported := ← itemsOr r "left_offset_supported" d.leftOffsetSupported
    topOffsetSupported := ← itemsOr r "top_offset_supported" d.topOffsetSupported
    hasSupplies := (Json.memberD r "has_supplies" (.bool d.hasSupplies)).truthy }
  return o.align

end PrinterConsole.DriverOptions
