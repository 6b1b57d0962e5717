/-
  The vocabularies of print defaults: color mode, content optimization, scaling, sides, media
  tracking, quality and orientation.

  The first five are flags, so that what a printer supports is one number; quality and orientation
  are ordinals.
-/
import PrinterConsole.Keyword.Vocabulary

namespace PrinterConsole

/-! ## Flags -/

inductive ColorMode where
  | auto | autoMonochrome | biLevel | color | monochrome | processMonochrome
  deriving DecidableEq, Repr

instance : Vocabulary ColorMode where
  members := [.auto, .autoMonochrome, .biLevel, .color, .monochrome, .processMonochrome]
  keyword
    | .auto => "auto"
    | .autoMonochrome => "auto-monochrome"
    | .biLevel => "bi-level"
    | .color => "color"
    | .monochrome => "monochrome"
    | .processMonochrome => "process-monochrome"
  code
    | .auto => 1
    | .autoMonochrome => 2
    | .biLevel => 4
    | .color => 8
    | .monochrome => 16
    | .processMonochrome => 32

inductive Content where
  | auto | graphic | photo | text | textAndGraphic
  deriving DecidableEq, Repr

instance : Vocabulary Content where
  members := [.auto, .graphic, .photo, .text, .textAndGraphic]
  keyword
    | .auto => "auto"
    | .graphic => "graphic"
    | .photo => "photo"
    | .text => "text"
    | .textAndGraphic => "text-and-graphic"
  code
    | .auto => 1
    | .graphic => 2
    | .photo => 4
    | .text => 8
    | .textAndGraphic => 16

inductive Scaling where
  | auto | autoFit | fill | fit | none
  deriving DecidableEq, Repr

instance : Vocabulary Scaling where
  members := [.auto, .autoFit, .fill, .fit, .none]
  keyword
    | .auto => "auto"
    | .autoFit => "auto-fit"
    | .fill => "fill"
    | .fit => "fit"
    | .none => "none"
  code
    | .auto => 1
    | .autoFit => 2
    | .fill => 4
    | .fit => 8
    | .none => 16

inductive Sides where
  | oneSided | twoSidedLongEdge | twoSidedShortEdge
  deriving DecidableEq, Repr

instance : Vocabulary Sides where
  members := [.oneSided, .twoSidedLongEdge, .twoSidedShortEdge]
  keyword
    | .oneSided => "one-sided"
    | .twoSidedLongEdge => "two-sided-long-edge"
    | .twoSidedShortEdge => "two-sided-short-edge"
  code
    | .oneSided => 1
    | .twoSidedLongEdge => 2
    | .twoSidedShortEdge => 4

/-- How the printer finds the start of a label. -/
inductive Tracking where
  | continuous | gap | mark | web
  deriving DecidableEq, Repr

instance : Vocabulary Tracking where
  members := [.continuous, .gap, .mark, .web]
  keyword
    | .continuous => "continuous"
    | .gap => "gap"
    | .mark => "mark"
    | .web => "web"
  code
    | .continuous => 1
    | .gap => 2
    | .mark => 4
    | .web => 8

/-! ## Ordinals -/

inductive Quality where
  | draft | normal | high
  deriving DecidableEq, Repr

instance : Vocabulary Quality where
  members := [.draft, .normal, .high]
  keyword
    | .draft => "draft"
    | .normal => "normal"
    | .high => "high"
  code
    | .draft => 3
    | .normal => 4
    | .high => 5

inductive Orientation where
  | portrait | landscape | reverseLandscape | reversePortrait | none
  deriving DecidableEq, Repr

instance : Vocabulary Orientation where
  members := [.portrait, .landscape, .reverseLandscape, .reversePortrait, .none]
  keyword
    | .portrait => "portrait"
    | .landscape => "landscape"
    | .reverseLandscape => "reverse-landscape"
    | .reversePortrait => "reverse-portrait"
    | .none => "none"
  code
    | .portrait => 3
    | .landscape => 4
    | .reverseLandscape => 5
    | .reversePortrait => 6
    | .none => 7

end PrinterConsole
