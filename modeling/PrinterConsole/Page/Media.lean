/-
  The media page: the form of the loaded media, with one row of inputs for each source.

  The names of the inputs begin with the name of their `MediaChooser`, and a part of the form is
  there only if the chooser has it: the inputs of a custom size, the box for borderless printing,
  the offsets and the list of tracking options.
-/
import PrinterConsole.Control.MediaChooser
import PrinterConsole.Page.Config

namespace PrinterConsole.Page

open PrinterConsole.Number PrinterConsole.Web

/-- Shows the inputs of a custom size when the first entry of a size list is chosen. -/
def customScript : String :=
  "<script>\nfunction show_hide_custom(name) \x7b\n" ++
  "  let selelem = document.forms['media'][name + '-size'];\n" ++
  "  let divelem = document.getElementById(name + '-custom');\n" ++
  "  if (!divelem)\n    return;\n" ++
  "  if (selelem.selectedIndex == 0)\n    divelem.style = 'display: inline-block;';\n" ++
  "  else\n    divelem.style = 'display: none;';\n\x7d\n</script>\n"

/-- The number input `i` with its bounds, its value with two decimal places. -/
def lengthInput (i : NumberInput) : Page :=
  "<input type=\"number\" name=\"" ++ value i.name ++ "\" min=\"" ++ value i.minimum.exactText ++
  "\" max=\"" ++ value i.maximum.exactText ++ "\" step=\"0.01\" value=\"" ++
  value (i.value.fixedText 2) ++ "\">"

/-- The inputs of a custom size, if it can be entered; hidden unless the custom size is selected
    (`showCustom`). -/
def customInputs (c : MediaChooser) : Page :=
  match c.customWidth, c.customLength with
  | some w, some l =>
    "\n      <div style=\"display: " ++
    fixed (if c.showCustom then "inline-block" else "none") ++ ";\" id=\"" ++ value c.name ++
    "-custom\">\n        " ++ lengthInput w ++ "x" ++ lengthInput l ++
    "inches\n      </div>\n      "
  | _, _ => empty

/-- The box for borderless printing, if the printer can do that. -/
def borderlessBox (c : MediaChooser) : Page :=
  match c.borderless with
  | none => empty
  | some checked =>
    "\n      <br><label><input type=\"checkbox\" name=\"" ++ value c.name ++ "-borderless\"" ++
    when checked " checked" ++ ">&nbsp;Borderless</label>\n      "

/-- The input `i` of an offset, if the printer can shift its image. -/
def offsetInput (label : String) (i : Option NumberInput) : Page :=
  match i with
  | none => empty
  | some i =>
    "\n      <br>" ++ fixed label ++ " <input type=\"number\" name=\"" ++ value i.name ++
    "\" min=\"" ++ value (i.minimum.fixedText 1) ++ "\" max=\"" ++
    value (i.maximum.fixedText 1) ++ "\" step=\"0.1\" value=\"" ++ value (i.value.fixedText 1) ++
    "\">mm\n      "

/-- The inputs of one source, from its `MediaChooser`. -/
def chooserRow (c : MediaChooser) : Page :=
  let tracking : Page := "\n      <br>" ++ select (c.name ++ "-tracking") c.tracking ++ "\n      "
  "\n    <tr><th>" ++ value c.title ++ ":</th><td>\n      <select name=\"" ++ value c.name ++
  "-size\" onchange=\"show_hide_custom('" ++ value c.name ++ "');\">\n        " ++
  optionLines "        " c.sizes ++ "\n      </select>\n      " ++ customInputs c ++ "\n      " ++
  borderlessBox c ++ "\n      " ++ offsetInput "Left Offset" c.leftOffset ++ "\n      " ++
  offsetInput "Top Offset" c.topOffset ++ "\n      " ++ when (!c.tracking.isEmpty) tracking ++
  "\n      <br>" ++ select (c.name ++ "-type") c.types ++ "\n    </td></tr>\n    "

/-- The form of all `choosers`, with the script that shows and hides the inputs of a custom size. -/
def mediaContent (site : Site) (choosers : List MediaChooser) : Page :=
  "\n" ++ fixed customScript ++ "<form name=\"media\" method=\"post\" action=\"" ++
  link site .media ++ "\">\n  " ++ tokenField ++ "\n  <table class=\"form\">\n    " ++
  each choosers chooserRow ++ "\n    " ++ saveRow

end PrinterConsole.Page
