/-
  Controls as markup: the token of a form, lists and groups of buttons.

  Names, values and labels are written as values, hence escaped; only attributes such as
  `selected` and `checked` are markup that is there or not.
-/
import PrinterConsole.Control.Choice
import PrinterConsole.Page.Basic

namespace PrinterConsole.Page

/-- The field that sends the token back; the one piece by which a page `needsToken`. -/
def tokenField : Page := "<input type=\"hidden\" name=\"session\" value=\"" ++ token ++ "\">"

/-- An option of a list, with `selected` if it is selected. -/
def optionLine (c : Choice) : Page :=
  "<option value=\"" ++ shown c.value ++ "\"" ++ when c.selected " selected" ++ ">" ++
  value c.label ++ "</option>"

/-- The options of a list, each on a line that is indented by `indent`. -/
def optionLines (indent : String) (choices : List Choice) : Page :=
  each choices fun c => "\n" ++ fixed indent ++ optionLine c ++ "\n" ++ fixed indent

/-- A list of `choices`, as one control that submits the value of its selected option. -/
def select (name : String) (choices : List Choice) : Page :=
  "<select name=\"" ++ value name ++ "\">\n  " ++ optionLines "  " choices ++ "\n</select>"

/-- A button of the group `name`, with its image if it has one. -/
def radio (name : String) (c : Choice) : Page :=
  let image : Page :=
    match c.image with
    | none => empty
    | some i =>
      "<img src=\"data:image/svg+xml," ++ value i ++ "\" alt=\"" ++ value c.label ++ "\">"
  "\n<label class=\"image\"><input type=\"radio\" name=\"" ++ value name ++ "\" value=\"" ++
  shown c.value ++ "\"" ++ when c.selected " checked" ++ ">" ++ image ++ "&nbsp;" ++
  value c.label ++ "</label>\n"

/-- A group of buttons (`radio`), which submits the value of the one that is checked. -/
def radios (name : String) (choices : List Choice) : Page := each choices (radio name)

end PrinterConsole.Page
