/-
  Driver options: what a printer can do, and the defaults of its jobs.

  What is supported is a set of flags, kept as a number; a default is a member of its vocabulary.
  Lists that come from a driver or a file and are only shown keep their items as they are, as
  `Json`.

  The ready media belong to the sources one to one.  This is no field of the structure, because a
  driver may hand over lists that do not fit and an edit may leave such lists behind: `Aligned`
  says it, `align` makes it so for any lists, and every way into a printer either aligns
  (`DriverOptions.ofJson`) or refuses what is not aligned (`Printer.editDriver`).

  Main statements: aligned options are aligned (`aligned_align`), and `align` changes nothing of
  aligned options (`align_eq_self`), so that aligning twice is aligning once.
-/
import PrinterConsole.Media.Loaded

namespace PrinterConsole

/-- The keyword of the source for sheets fed by hand.  It is never edited and never offered as a
    default. -/
def manualSource : String := "manual"

/-- Whether a source keyword is `manualSource`. -/
def isManual (source : Json) : Bool := Json.same source (.string manualSource)

/-- Capabilities and defaults of one printer; lengths in hundredths of a millimetre.  The values
    given here are those of a driver that notes nothing, and they stand in for what a saved record
    does not tell. -/
structure DriverOptions where
  colorSupported : Int := 17
  colorDefault : ColorMode := .auto
  sidesSupported : Int := 1
  sidesDefault : Sides := .oneSided
  contentSupported : Int := 31
  contentDefault : Content := .auto
  scalingSupported : Int := 31
  scalingDefault : Scaling := .auto
  trackingSupported : Int := 0
  qualityDefault : Int := 4
  orientationDefault : Int := 3
  /-- Percent. -/
  darknessConfigured : Int := 0
  /-- Number of steps; none if it is not positive. -/
  darknessSupported : Int := 0
  /-- Per second. -/
  speedDefault : Int := 0
  /-- The slowest and the fastest speed; not adjustable if the fastest is zero. -/
  speedSupported : List Json := [.int 0, .int 0]
  xDefault : Int := 300
  yDefault : Int := 300
  /-- Pairs of horizontal and vertical resolution. -/
  resolutions : List (List Json) := [[.int 300, .int 300]]
  /-- Size keywords, those of a custom range included. -/
  media : List Json := []
  types : List Json := []
  sources : List Json := []
  mediaReady : List LoadedMedia := []
  mediaDefault : LoadedMedia := .empty
  borderless : Bool := false
  /-- Bottom and top margin of media that are not borderless. -/
  bottomTop : Int := 0
  /-- Left and right margin of media that are not borderless. -/
  leftRight : Int := 0
  /-- Least and greatest offset; not adjustable if the greatest is zero. -/
  leftOffsetSupported : List Json := [.int 0, .int 0]
  topOffsetSupported : List Json := [.int 0, .int 0]
  hasSupplies : Bool := false

namespace DriverOptions

instance : Inhabited DriverOptions := ⟨{}⟩

/-! ## Alignment of ready media and sources -/

/-- There is one entry of `mediaReady` for each of the `sources`. -/
def Aligned (o : DriverOptions) : Prop := o.mediaReady.length = o.sources.length

instance (o : DriverOptions) : Decidable o.Aligned :=
  inferInstanceAs (Decidable (_ = _))

/-- Cuts `entries` to `n`, or fills them up with `LoadedMedia.empty` at the end. -/
def fitted (n : Nat) (entries : List LoadedMedia) : List LoadedMedia :=
  entries.take n ++ List.replicate (n - entries.length) .empty

/-- The options with their ready media `fitted` to the number of sources. -/
def align (o : DriverOptions) : DriverOptions :=
  { o with mediaReady := fitted o.sources.length o.mediaReady }

/-- A list that was `fitted` has the length it was fitted to, whether it was cut or filled up. -/
theorem length_fitted (n : Nat) (entries : List LoadedMedia) : (fitted n entries).length = n := by
  simp [fitted]; omega

/-- Whatever the two lists are, `align` makes them belong together. -/
theorem aligned_align (o : DriverOptions) : o.align.Aligned := length_fitted _ _

/-- Of options that are `Aligned`, `align` changes nothing, so loading what was saved does not touch
    the ready media. -/
theorem align_eq_self {o : DriverOptions} (h : o.Aligned) : o.align = o := by
  have : fitted o.sources.length o.mediaReady = o.mediaReady := by
    rw [fitted, ← h]; simp
  rw [align, this]

/-! ## Sources -/

/-- The place of a source, by `Json.same`; the first one if it occurs twice. -/
def sourceIndex? (o : DriverOptions) (source : Json) : Option Nat :=
  Json.indexIn? source o.sources

end DriverOptions

end PrinterConsole
