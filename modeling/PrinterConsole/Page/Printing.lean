/-
  The printing defaults page: the form of the job defaults.

  A row is left out if there is nothing to choose from (`rowOf`), except for those that always
  have a choice; a control that is a fixed text is shown as that text and submits nothing
  (`controlRow`).
-/
import PrinterConsole.Control.Defaults
import PrinterConsole.Page.Config

namespace PrinterConsole.Page

open PrinterConsole.Web

/-- A row of a form table, with its `label`. -/
def formRow (label : String) (content : Page) : Page :=
  "<tr><th>" ++ fixed label ++ ":</th><td>" ++ content ++ "</td></tr>"

/-- A `row` that is there only if there is something to choose from. -/
def rowOf (choices : List Choice) (row : Page) : Page :=
  when (!choices.isEmpty) ("\n    " ++ row ++ "\n    ")

/-- A control: its fixed text, or its choices as the page would `offer` them. -/
def controlRow (label : String) (c : Control) (offer : List Choice → Page) : Page :=
  formRow label <| "\n      " ++
    match c.fixedLabel with
    | some text => value text
    | none => offer c.choices

/-- The form of the controls `d` of a printer, in a fixed order. -/
def printingContent (site : Site) (d : DriverOptions.DefaultsPage) : Page :=
  let sources : Page :=
    select "media-source" d.sources ++ "\n      <a class=\"btn\" href=\"" ++ link site .media ++
    "\">Configure Media</a>"
  "\n<form method=\"post\" action=\"" ++ link site .printing ++ "\">\n  " ++ tokenField ++
  "\n  <table class=\"form\">\n    " ++ rowOf d.sources (formRow "Media" sources) ++ "\n    " ++
  formRow "Orientation" (radios "orientation-requested" d.orientations) ++ "\n    " ++
  controlRow "Color Mode" d.colorMode (radios "print-color-mode") ++ "\n    " ++
  rowOf d.sides (formRow "2-Sided Printing" (radios "sides" d.sides)) ++ "\n    " ++
  formRow "Print Quality" (radios "print-quality" d.qualities) ++ "\n    " ++
  rowOf d.darkness (formRow "Print Darkness" (select "print-darkness" d.darkness)) ++ "\n    " ++
  rowOf d.speeds (formRow "Print Speed" (select "print-speed" d.speeds)) ++ "\n    " ++
  formRow "Print Optimization" (select "print-content-optimize" d.contents) ++ "\n    " ++
  formRow "Print Scaling" (select "print-scaling" d.scalings) ++ "\n    " ++
  controlRow "Resolution" d.resolution (select "printer-resolution") ++ "\n    " ++ saveRow

end PrinterConsole.Page
