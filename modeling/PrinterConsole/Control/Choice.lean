/-
  Controls of a page: choices of a list or a group of buttons, and bounded number inputs.

  These are what a page shows of the options of a printer.  They hold values and labels only; how
  they are drawn is a matter of `Page`, and what a submitted value does is a matter of the forms.
-/
import PrinterConsole.Json.Display
import PrinterConsole.Keyword.Vocabulary
import PrinterConsole.Media.Label

namespace PrinterConsole

open PrinterConsole.Number

/-- One option of a list or of a group of buttons.  Its `value` is JSON because the options of a
    driver are, which come from a file as they are. -/
structure Choice where
  /-- What is submitted when the option is chosen. -/
  value : Json
  label : String
  selected : Bool
  /-- An image shown beside the option, encoded for a URL. -/
  image : Option String := none

/-- Either a fixed text (`fixedLabel`) or options to choose from (`choices`). -/
structure Control where
  fixedLabel : Option String := none
  choices : List Choice := []

/-- A number input with its bounds `minimum` and `maximum`, in the unit that the page shows. -/
structure NumberInput where
  name : String
  minimum : Binary64
  maximum : Binary64
  value : Binary64

namespace Choice

/-- The option for a member of a vocabulary: its `keyword` is the value, and the label is that
    keyword as one of the attribute `attr` (`Label.plain`). -/
def ofMember {α : Type} [Vocabulary α] (attr : String) (selected : α → Bool) (m : α) : Choice :=
  { value := .string (Vocabulary.keyword m)
    label := Label.plain attr (Vocabulary.keyword m)
    selected := selected m }

end Choice

end PrinterConsole
