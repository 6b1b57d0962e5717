/-
  The configuration form: a submission as a change of a printer's identity.

  A text field that is present overwrites, or clears if nothing is left of its text after
  cleaning; an absent one changes nothing.  The location changes only when both coordinates are
  present: it is cleared if one of them is blank, and stays as it was if one of them is no number.
  The contact is replaced as a whole when one of its fields is present.

  A form is first read as a `Change`, in which a field that is `none` asks for nothing, and the
  change is then applied by `Change.apply`.  Reading may fail, applying cannot; so a submission
  either changes everything it asks for or nothing.  `Change.written` tells which parts were
  written, also those that got the value they had.
-/
import PrinterConsole.Form.Value
import PrinterConsole.Form.Basic
import PrinterConsole.Identity.Basic
import PrinterConsole.Markup.Clean

namespace PrinterConsole.Identity

open PrinterConsole.Markup PrinterConsole.Text

/-- The parts of an `Identity` that a form can change. -/
inductive Part where
  | dnsSdName | location | organization | orgUnit | geoLocation | contact
  deriving DecidableEq, Repr

/-- The key of a `Part` in a saved identity. -/
def Part.key : Part → String
  | .dnsSdName => "dns_sd_name"
  | .location => "location"
  | .organization => "organization"
  | .orgUnit => "org_unit"
  | .geoLocation => "geo_location"
  | .contact => "contact"

/-- The limits of the texts, in characters. -/
def nameLimit : Nat := 63
def textLimit : Nat := 127
def contactLimit : Nat := 255

/-! ## Fields -/

/-- The new value of a text field, if the field is present: what `clean` leaves of its text, or null
    if that is nothing.  A field that is present without a text has nothing to clean, which is a
    fault. -/
def textField (f : Form) (name : String) (limit : Nat) : Except Fault (Option Json) :=
  match f.field? name with
  | none => .ok none
  | some none => .error .notText
  | some (some text) => do
    let plain ← clean limit text
    return some (if plain.isEmpty then .null else .string plain)

/-- The new location, if the form gives one: a `geoUri`, or null.  Blank texts are looked at before
    numbers, so a blank beside a text that is no number clears the location. -/
def geoField (f : Form) : Option Json :=
  match f.value? "geo_location_lat", f.value? "geo_location_lon" with
  | some lat, some lon =>
    if isBlankText lat || isBlankText lon then some .null
    else
      match Form.finiteNumber lat, Form.finiteNumber lon with
      | some x, some y => some (.string (geoUri x y))
      | _, _ => none
  | _, _ => none

/-- The new contact, if one of its fields is present in the form `f`; an absent one of the three
    then counts as the empty text. -/
def contactField (f : Form) : Except Fault (Option Contact) :=
  let name := f.value? "contact_name"
  let email := f.value? "contact_email"
  let telephone := f.value? "contact_telephone"
  if name.isNone && email.isNone && telephone.isNone then .ok none
  else do
    let name ← clean contactLimit (name.getD "")
    let email ← clean contactLimit (email.getD "")
    let telephone ← clean contactLimit (telephone.getD "")
    return some ⟨.string name, .string email, .string telephone⟩

/-! ## Changes -/

/-- What a form changes: `none` keeps a part, `some` overwrites it. -/
structure Change where
  dnsSdName : Option Json
  location : Option Json
  organization : Option Json
  orgUnit : Option Json
  geoLocation : Option Json
  contact : Option Contact

namespace Change

/-- The `Change` that the form `f` asks for.  The fields are read one after the other, and the first
    that fails is what is told. -/
def ofForm (f : Form) : Except Fault Change := do
  return {
    dnsSdName := ← textField f "dns_sd_name" nameLimit
    location := ← textField f "location" textLimit
    organization := ← textField f "organization" textLimit
    orgUnit := ← textField f "organizational_unit" textLimit
    geoLocation := geoField f
    contact := ← contactField f }

/-- The identity `i` after the change `c`. -/
def apply (c : Change) (i : Identity) : Identity where
  dnsSdName := c.dnsSdName.getD i.dnsSdName
  location := c.location.getD i.location
  geoLocation := c.geoLocation.getD i.geoLocation
  organization := c.organization.getD i.organization
  orgUnit := c.orgUnit.getD i.orgUnit
  contact := c.contact.getD i.contact

/-- The parts that the change `c` writes, in the order in which the form is read. -/
def written (c : Change) : List Part :=
  (if c.dnsSdName.isSome then [Part.dnsSdName] else []) ++
  (if c.location.isSome then [Part.location] else []) ++
  (if c.organization.isSome then [Part.organization] else []) ++
  (if c.orgUnit.isSome then [Part.orgUnit] else []) ++
  (if c.geoLocation.isSome then [Part.geoLocation] else []) ++
  (if c.contact.isSome then [Part.contact] else [])

end Change

/-- The identity `i` after a submission of the form `f`, and the parts it wrote. -/
def applyForm (f : Form) (i : Identity) : Except Fault (Identity × List Part) := do
  let c ← Change.ofForm f
  return (c.apply i, c.written)

end PrinterConsole.Identity
