/-
  Supplies: ink, toner, labels and waste, and the bars that show their levels.

  A bar has a filled and an empty part; their paddings together make half of the width
  (`Bar.filled`, `Bar.empty`).  A level is any whole number, so a padding may be negative, and a
  level beyond the range of values has none.
-/
import PrinterConsole.Keyword.Device

namespace PrinterConsole

open PrinterConsole.Number

/-- A supply of a printer. -/
structure Supply where
  description : Json
  color : SupplyColor
  /-- What is left, in percent. -/
  level : Int
  type : Json

namespace Supply

/-- The record of the supply `s`. -/
def toJson (s : Supply) : Json :=
  .object [
    ("description", s.description),
    ("color", .string (Vocabulary.keyword s.color)),
    ("level", .int s.level),
    ("type", s.type)]

/-- The supply of a record; an unknown color counts as none. -/
def ofJson (v : Json) : Except Fault Supply := do
  let r ← v.toRecord
  let blank := Json.string ""
  return {
    description := Json.memberD r "description" blank
    color := (← Vocabulary.ofJson? (Json.memberD r "color" blank)).getD .noColor
    level := ← (Json.memberD r "level" (.int 0)).toWhole
    type := Json.memberD r "type" blank }

/-- The supplies of a printer without a saved state. -/
def ofLabelPrinter : List Supply := [
  ⟨.string "Black Ribbon", .black, 80, .string "ribbon"⟩,
  ⟨.string "Labels", .noColor, 35, .string "media"⟩]

/-- A checkered tile, for supplies without a color. -/
def checkered : String :=
  "url(data:image/png;base64," ++
  "iVBORw0KGgoAAAANSUhEUgAAAAwAAAAMCAYAAABWdVznAAAAAXNSR0IArs4c" ++
  "6QAAAERlWElmTU0AKgAAAAgAAYdpAAQAAAABAAAAGgAAAAAAA6ABAAMAAAAB" ++
  "AAEAAKACAAQAAAABAAAADKADAAQAAAABAAAADAAAAAATDPpdAAAAaUlEQVQo" ++
  "FY2R0Q3AIAhEa7siCet0HeKQtGeiwWKR+wH0HWAsRKTHK2ZGWEpExvmJLAuD" ++
  "LbXWNgHFV7Zzv2sTemHjCsYmS8MfjIbOEMHOsIMnQwYehiwMw6WqNxKr6F/c" ++
  "oyMYm0yGHYwtHq4fKZD9DnawAAAAAElFTkSuQmCC)"

/-- The paint of a bar.  Black is a little lighter, to be seen on dark pages. -/
def background : SupplyColor → String
  | .noColor => checkered
  | .black => "#222"
  | .cyan => "#0FF"
  | .gray => "#777"
  | .green => "#0C0"
  | .lightCyan => "#7FF"
  | .lightGray => "#CCC"
  | .lightMagenta => "#FCF"
  | .magenta => "#F0F"
  | .orange => "#F70"
  | .violet => "#707"
  | .yellow => "#FF0"

/-- A level bar. -/
structure Bar where
  description : Json
  background : String
  level : Int

/-- The `Bar` of the supply `s`. -/
def bar (s : Supply) : Bar := ⟨s.description, background s.color, s.level⟩

/-- The padding of the filled part of the bar `b`, in percent: half of the level. -/
def Bar.filled (b : Bar) : Except Fault Binary64 :=
  match Binary64.ofInt? b.level with
  | some x => .ok (.mul x (.ofRatio false 1 2))
  | none => .error .tooLarge

/-- The padding of the empty part, in percent: 50 without the `filled` one. -/
def Bar.empty (b : Bar) : Except Fault Binary64 := do
  return .sub (.ofRatio false 50 1) (← b.filled)

end Supply

end PrinterConsole
