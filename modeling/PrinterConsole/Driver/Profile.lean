/-
  The label printer: the driver options of a printer without a saved state.

  A thermal printer with two rolls and a manual feed.  Only the first roll is configured, so that a
  fresh installation shows sensible defaults on every page.

  Main statement: the profile's ready media belong to its sources (`aligned_labelPrinter`).
-/
import PrinterConsole.Driver.Codec

namespace PrinterConsole.DriverOptions

/-- Labels of 4 by 6 inches on the roll `main-roll`: the media that a fresh installation has loaded,
    and its default media. -/
def firstRoll : LoadedMedia :=
  { LoadedMedia.empty with
    sizeName := .string "na_index-4x6_4x6in"
    width := 10160
    length := 15240
    source := .string "main-roll"
    tracking := some .gap
    type := .string "labels" }

/-- The label printer; custom sizes from 0.75 by 0.25 to 4.25 by 22 inches, as its two media
    keywords with `min` and `max` announce. -/
def labelPrinter : DriverOptions where
  colorSupported := Vocabulary.setOf [ColorMode.auto, .monochrome, .autoMonochrome]
  colorDefault := .monochrome
  trackingSupported := Vocabulary.setOf [Tracking.continuous, .gap, .mark]
  darknessConfigured := 50
  darknessSupported := 11
  speedSupported := [.int 2540, .int (6 * 2540)]
  xDefault := 203
  yDefault := 203
  resolutions := [[.int 203, .int 203], [.int 300, .int 300]]
  media := [
    .string "na_index-4x6_4x6in",
    .string "na_5x7_5x7in",
    .string "oe_photo-l_3.5x5in",
    .string "om_small-photo_100x150mm",
    .string "roll_max_4.25x22in",
    .string "roll_min_0.75x0.25in"]
  types := [.string "labels", .string "labels-continuous", .string "continuous"]
  sources := [.string "main-roll", .string "alternate-roll", .string "manual"]
  mediaReady := [firstRoll, .empty, .empty]
  mediaDefault := firstRoll
  borderless := true
  bottomTop := 125
  leftRight := 125
  topOffsetSupported := [.int (-1500), .int 1500]
  hasSupplies := true

/-- The profile is `Aligned`, so a printer may start with it as it is. -/
theorem aligned_labelPrinter : labelPrinter.Aligned := rfl

end PrinterConsole.DriverOptions
