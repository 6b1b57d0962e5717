/-
  The vocabularies of the device: its state, the reasons for that state, and the colors of its
  supplies.

  Reasons are flags; states and colors are ordinals.
-/
import PrinterConsole.Keyword.Vocabulary

namespace PrinterConsole

/-- What a printer does: nothing, a job, or nothing because it has to be looked after. -/
inductive PrinterState where
  | idle | processing | stopped
  deriving DecidableEq, Repr

instance : Vocabulary PrinterState where
  members := [.idle, .processing, .stopped]
  keyword
    | .idle => "idle"
    | .processing => "processing"
    | .stopped => "stopped"
  code
    | .idle => 3
    | .processing => 4
    | .stopped => 5

/-- The wording of a `PrinterState` on the status page. -/
def PrinterState.label : PrinterState → String
  | .idle => "Idle"
  | .processing => "Printing"
  | .stopped => "Stopped"

/-- Why a printer is in its `PrinterState`; flags, since there may be several reasons at once. -/
inductive Reason where
  | other | coverOpen | inputTrayMissing | markerSupplyEmpty | markerSupplyLow
  | markerWasteAlmostFull | markerWasteFull | mediaEmpty | mediaJam | mediaLow | mediaNeeded
  | spoolAreaFull | tonerEmpty | tonerLow
  deriving DecidableEq, Repr

instance : Vocabulary Reason where
  members :=
    [.other, .coverOpen, .inputTrayMissing, .markerSupplyEmpty, .markerSupplyLow,
     .markerWasteAlmostFull, .markerWasteFull, .mediaEmpty, .mediaJam, .mediaLow, .mediaNeeded,
     .spoolAreaFull, .tonerEmpty, .tonerLow]
  keyword
    | .other => "other"
    | .coverOpen => "cover-open"
    | .inputTrayMissing => "input-tray-missing"
    | .markerSupplyEmpty => "marker-supply-empty"
    | .markerSupplyLow => "marker-supply-low"
    | .markerWasteAlmostFull => "marker-waste-almost-full"
    | .markerWasteFull => "marker-waste-full"
    | .mediaEmpty => "media-empty"
    | .mediaJam => "media-jam"
    | .mediaLow => "media-low"
    | .mediaNeeded => "media-needed"
    | .spoolAreaFull => "spool-area-full"
    | .tonerEmpty => "toner-empty"
    | .tonerLow => "toner-low"
  code
    | .other => 0x0001
    | .coverOpen => 0x0002
    | .inputTrayMissing => 0x0004
    | .markerSupplyEmpty => 0x0008
    | .markerSupplyLow => 0x0010
    | .markerWasteAlmostFull => 0x0020
    | .markerWasteFull => 0x0040
    | .mediaEmpty => 0x0080
    | .mediaJam => 0x0100
    | .mediaLow => 0x0200
    | .mediaNeeded => 0x0400
    | .spoolAreaFull => 0x0800
    | .tonerEmpty => 0x1000
    | .tonerLow => 0x2000

/-- The wording of a `Reason` on the status page. -/
def Reason.label : Reason → String
  | .other => "Other"
  | .coverOpen => "Cover Open"
  | .inputTrayMissing => "Tray Missing"
  | .markerSupplyEmpty => "Out of Ink"
  | .markerSupplyLow => "Low Ink"
  | .markerWasteAlmostFull => "Waste Tank Almost Full"
  | .markerWasteFull => "Waste Tank Full"
  | .mediaEmpty => "Media Empty"
  | .mediaJam => "Media Jam"
  | .mediaLow => "Media Low"
  | .mediaNeeded => "Media Needed"
  | .spoolAreaFull => "Too Many Jobs"
  | .tonerEmpty => "Out of Toner"
  | .tonerLow => "Low Toner"

/-- The color of a supply; `noColor` for what has none, such as labels. -/
inductive SupplyColor where
  | noColor | black | cyan | gray | green | lightCyan | lightGray | lightMagenta | magenta
  | orange | violet | yellow
  deriving DecidableEq, Repr

instance : Vocabulary SupplyColor where
  members :=
    [.noColor, .black, .cyan, .gray, .green, .lightCyan, .lightGray, .lightMagenta, .magenta,
     .orange, .violet, .yellow]
  keyword
    | .noColor => "no-color"
    | .black => "black"
    | .cyan => "cyan"
    | .gray => "gray"
    | .green => "green"
    | .lightCyan => "light-cyan"
    | .lightGray => "light-gray"
    | .lightMagenta => "light-magenta"
    | .magenta => "magenta"
    | .orange => "orange"
    | .violet => "violet"
    | .yellow => "yellow"
  code
    | .noColor => 0
    | .black => 1
    | .cyan => 2
    | .gray => 3
    | .green => 4
    | .lightCyan => 5
    | .lightGray => 6
    | .lightMagenta => 7
    | .magenta => 8
    | .orange => 9
    | .violet => 10
    | .yellow => 11

end PrinterConsole
