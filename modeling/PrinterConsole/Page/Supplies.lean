/-
  The supplies page: a level bar for each supply.

  A bar is two parts of which each takes its share of the width; the numbers are written in full
  (`Binary64.exactText`), so a level too large for a number makes the page fail.
-/
import PrinterConsole.Page.Layout
import PrinterConsole.Status.Supply

namespace PrinterConsole.Page

open PrinterConsole.Number

/-- One part of a bar, with its `background`. -/
def barPart (background : String) (padding : Binary64) (level : Int) : Page :=
  "<span class=\"bar\" style=\"background: " ++ value background ++ "; padding: 5px " ++
  value padding.exactText ++ "%;\" title=\"" ++ number level ++ "%\"></span>"

/-- The bar of the supply `s`, with its description. -/
def supplyRow (s : Supply) : Except Fault Page := do
  let bar := s.bar
  let filled ← bar.filled
  let rest ← bar.empty
  return "\n  <tr>\n    <th>" ++ shown bar.description ++ "</th>\n    <td class=\"meter\">" ++
    barPart bar.background filled bar.level ++ barPart "transparent" rest bar.level ++
    "</td>\n  </tr>\n  "

/-- The bars of all supplies, in their order; the first that fails makes the page fail. -/
def suppliesContent (supplies : List Supply) : Except Fault Page := do
  return "\n<table class=\"meter\">\n  " ++ concat (← supplies.mapM supplyRow) ++ "\n</table>\n"

end PrinterConsole.Page
