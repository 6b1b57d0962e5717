/-
  The identity of a printer: its name, place, organization and contact.

  A field is a text, or null if it is unset.  Loaded fields are kept as they are, as `Json`, and
  only a location that is shown has to be a text (`coordinates`).

  The geographic location is a URI with a latitude and a longitude: `geoUri` writes one from two
  numbers, and `coordinatesOf` takes the two texts out of one, without reading them as numbers
  again.
-/
import PrinterConsole.Json.Coerce
import PrinterConsole.Text.Part

namespace PrinterConsole

open PrinterConsole.Number PrinterConsole.Text

/-- Whom to ask about a printer.  An unset part is the empty text, not null. -/
structure Contact where
  name : Json := .string ""
  email : Json := .string ""
  telephone : Json := .string ""

/-- What an administrator calls a printer. -/
structure Identity where
  dnsSdName : Json := .null
  location : Json := .null
  /-- A URI of the form `geo:<latitude>,<longitude>`. -/
  geoLocation : Json := .null
  organization : Json := .null
  orgUnit : Json := .null
  contact : Contact := {}

namespace Contact

instance : Inhabited Contact := ⟨{}⟩

/-- The members of the record of the contact `c`, in the order in which they are saved. -/
def record (c : Contact) : List (String × Json) :=
  [("name", c.name), ("email", c.email), ("telephone", c.telephone)]

def toJson (c : Contact) : Json := .object c.record

def ofJson (v : Json) : Except Fault Contact := do
  let r ← v.toRecord
  let blank := Json.string ""
  return {
    name := Json.memberD r "name" blank
    email := Json.memberD r "email" blank
    telephone := Json.memberD r "telephone" blank }

end Contact

namespace Identity

instance : Inhabited Identity := ⟨{}⟩

/-- The identity of a printer without a saved state: only its `name` is set. -/
def ofName (name : String) : Identity := { dnsSdName := .string name }

/-- The members of the record of the identity `i`, in the order in which they are saved; the contact
    is a record of its own. -/
def record (i : Identity) : List (String × Json) :=
  [("dns_sd_name", i.dnsSdName),
   ("location", i.location),
   ("geo_location", i.geoLocation),
   ("organization", i.organization),
   ("org_unit", i.orgUnit),
   ("contact", i.contact.toJson)]

def toJson (i : Identity) : Json := .object i.record

def ofJson (v : Json) : Except Fault Identity := do
  let r ← v.toRecord
  return {
    dnsSdName := Json.memberD r "dns_sd_name" .null
    location := Json.memberD r "location" .null
    geoLocation := Json.memberD r "geo_location" .null
    organization := Json.memberD r "organization" .null
    orgUnit := Json.memberD r "org_unit" .null
    contact := ← Contact.ofJson (Json.memberD r "contact" (.object [])) }

/-! ## Geographic locations -/

/-- The URI of a location, its coordinates to six significant digits (`Binary64.generalText`). -/
def geoUri (latitude longitude : Binary64) : String :=
  "geo:" ++ latitude.generalText ++ "," ++ longitude.generalText

/-- The texts of latitude and longitude; empty if the text is no such URI.  Parameters after a `;`
    and anything after a second comma are left out. -/
def coordinatesOf (uri : String) : String × String :=
  if !startsWith "geo:" uri then ("", "")
  else
    match splitOn ',' ((uri.toList.drop 4).takeWhile (· != ';')) with
    | latitude :: longitude :: _ => (String.ofList latitude, String.ofList longitude)
    | _ => ("", "")

/-- The coordinates of the location `geo`, which may be unset; a set one must be a text. -/
def coordinates (geo : Json) : Except Fault (String × String) :=
  if !geo.truthy then .ok ("", "")
  else match geo with
    | .string uri => .ok (coordinatesOf uri)
    | _ => .error .notText

end Identity

end PrinterConsole
