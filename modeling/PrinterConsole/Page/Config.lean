/-
  The configuration page: the form of the identity.

  The names of the inputs are those that `Identity.Change.ofForm` reads, and the `maxlength` of a
  text input is the limit that its text is cut to.  An input shows what is set, an unset field as
  the empty text (`fieldValue`), so a form that is submitted unchanged clears what was unset
  already.
-/
import PrinterConsole.Identity.Form
import PrinterConsole.Page.Controls
import PrinterConsole.Page.Layout

namespace PrinterConsole.Page

open PrinterConsole.Web

/-- The value of the field `v`; empty if it is not set. -/
def fieldValue (v : Json) : Page := if v.truthy then shown v else value ""

/-- A text input: its type and name, further attributes, and its value. -/
def input (type name attributes : String) (content : Page) : Page :=
  "<input type=\"" ++ fixed type ++ "\" name=\"" ++ fixed name ++ "\" " ++ fixed attributes ++
  " value=\"" ++ content ++ "\">"

/-- The label in front of the input `name`. -/
def inputLabel (name label : String) : Page :=
  "    <tr><th><label for=\"" ++ fixed name ++ "\">" ++ fixed label ++
  ":</label></th>\n      <td>"

/-- The rows of name, location and organization; the `coordinates` stand beside the location. -/
def identityRows (i : Identity) (coordinates : String × String) : Page :=
  inputLabel "dns_sd_name" "Name" ++
  input "text" "dns_sd_name" "id=\"dns_sd_name\" maxlength=\"63\"" (fieldValue i.dnsSdName) ++
  "</td></tr>\n" ++
  inputLabel "location" "Location" ++
  input "text" "location"
    "id=\"location\" maxlength=\"127\" placeholder=\"Human-readable location\""
    (fieldValue i.location) ++
  "<br>\n        " ++
  input "number" "geo_location_lat"
    "min=\"-90\" max=\"90\" step=\"any\" placeholder=\"Latitude Degrees\"" (value coordinates.1) ++
  "&deg;&nbsp;latitude\n        " ++
  input "number" "geo_location_lon"
    "min=\"-180\" max=\"180\" step=\"any\" placeholder=\"Longitude Degrees\""
    (value coordinates.2) ++
  "&deg;&nbsp;longitude</td></tr>\n" ++
  inputLabel "organization" "Organization" ++
  input "text" "organization"
    "id=\"organization\" maxlength=\"127\" placeholder=\"Organization name\""
    (fieldValue i.organization) ++
  "<br>\n        " ++
  input "text" "organizational_unit" "maxlength=\"127\" placeholder=\"Organizational unit\""
    (fieldValue i.orgUnit) ++
  "</td></tr>\n"

/-- The row of the contact `c`.  Its parts are shown as they are, since an unset one is the empty
    text. -/
def contactRows (c : Contact) : Page :=
  inputLabel "contact_name" "Contact" ++
  input "text" "contact_name" "id=\"contact_name\" maxlength=\"255\" placeholder=\"Name\""
    (shown c.name) ++
  "<br>\n        " ++
  input "email" "contact_email" "maxlength=\"255\" placeholder=\"name@domain\"" (shown c.email) ++
  "<br>\n        " ++
  input "tel" "contact_telephone" "maxlength=\"255\" placeholder=\"867-5309\""
    (shown c.telephone) ++
  "</td></tr>\n"

/-- The last row of a form table. -/
def saveRow : Page :=
  "<tr><th></th><td><input type=\"submit\" value=\"Save Changes\"></td></tr>\n  </table>\n</form>\n"

/-- The form of the identity `i`, with its `coordinates` as texts. -/
def configContent (site : Site) (i : Identity) (coordinates : String × String) : Page :=
  "\n<form method=\"post\" action=\"" ++ link site .config ++ "\">\n  " ++ tokenField ++
  "\n  <table class=\"form\">\n" ++ identityRows i coordinates ++ contactRows i.contact ++
  "    " ++ saveRow

end PrinterConsole.Page
