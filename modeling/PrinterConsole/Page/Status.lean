/-
  The status page: the printer's status, its identity and its jobs.

  The page has no form: everything on it leads to another page.  A field that is not set is told
  so (`notSet`) where it stands for itself, and left out where it only adds to another.
-/
import PrinterConsole.Page.Jobs
import PrinterConsole.Printer

namespace PrinterConsole.Page

open PrinterConsole.Web

/-! ## Status -/

/-- A button that leads to the place `p`. -/
def button (site : Site) (p : Place) (label : String) : Page :=
  "<a class=\"btn\" href=\"" ++ link site p ++ "\">" ++ value label ++ "</a>"

/-- The status line of the printer `p` and the ways to the other pages. -/
def statusPart (site : Site) (p : Printer) : Page :=
  "\n<h2 class=\"title\">Status</h2>\n<p><span class=\"state " ++
  value (Vocabulary.keyword p.state) ++ "\"></span>" ++ value p.statusText ++ ".</p>\n<p>\n  " ++
  button site .media "Media" ++ "\n  " ++ button site .printing "Printing Defaults" ++ "\n  " ++
  when p.driver.hasSupplies (button site .supplies "Supplies") ++ "\n</p>\n"

/-! ## Identity -/

/-- The text for what is not set. -/
def notSet : String := "Not set"

/-- A field of the identity, or `notSet`. -/
def fieldOr (v : Json) : Page := if v.truthy then shown v else value notSet

/-- A line break and the field `v`, if it is set. -/
def furtherField (v : Json) : Page := when v.truthy ("<br>" ++ shown v)

/-- The coordinates `latitude` and `longitude`, with a map of them. -/
def coordinatesLink (latitude longitude : String) : Page :=
  "<br><a href=\"https://www.openstreetmap.org/?mlat=" ++ value latitude ++ "&amp;mlon=" ++
  value longitude ++ "&amp;zoom=18\">" ++ value latitude ++ "&deg;, " ++ value longitude ++
  "&deg;</a>"

/-- Name, address and telephone, each only if it is set; `notSet` if none of them is. -/
def contactLines (c : Contact) : Page :=
  when c.name.truthy (shown c.name ++ "<br>") ++ "\n    " ++
  when c.email.truthy
    ("<a href=\"mailto:" ++ shown c.email ++ "\">" ++ shown c.email ++ "</a><br>") ++ "\n    " ++
  when c.telephone.truthy
    ("<a href=\"tel:" ++ shown c.telephone ++ "\">" ++ shown c.telephone ++ "</a>") ++ "\n    " ++
  when (!(c.name.truthy || c.email.truthy || c.telephone.truthy)) (fixed notSet)

/-- The identity `i` as a table. -/
def identityPart (site : Site) (i : Identity) (coordinates : String × String) : Page :=
  "\n<h2 class=\"title\">Location</h2>\n<table class=\"form\">\n  <tr><th>Name:</th><td>" ++
  fieldOr i.dnsSdName ++ "</td></tr>\n  <tr><th>Location:</th><td>" ++ fieldOr i.location ++
  "\n    " ++ when i.geoLocation.truthy (coordinatesLink coordinates.1 coordinates.2) ++
  "</td></tr>\n  <tr><th>Organization:</th><td>" ++ fieldOr i.organization ++ "\n    " ++
  furtherField i.orgUnit ++ "</td></tr>\n  <tr><th>Contact:</th><td>\n    " ++
  contactLines i.contact ++ "\n  </td></tr>\n</table>\n<p>" ++ button site .config "Change" ++
  "</p>\n"

/-! ## The page -/

/-- The three parts of the page, the jobs as on the page of the history. -/
def statusContent (site : Site) (p : Printer) (coordinates : String × String) : Page :=
  statusPart site p ++ identityPart site p.identity coordinates ++
  "\n<h2 class=\"title\">Jobs</h2>\n\n\n" ++ allJobs site p.queue ++ "\n"

end PrinterConsole.Page
