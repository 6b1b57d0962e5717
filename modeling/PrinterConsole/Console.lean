/-
  The console: it answers requests with pages of a printer.

  `answer` is the whole program for one request.  `Site.route` finds the place that is asked for;
  a GET is answered by `view`, which makes the page with `pageAt` and hands it to `deliver`, and a
  POST by `submit`, which first asks `acceptedForm` for the fields and the token of the session
  and then lets `apply` change the printer.

  Looking at a page changes nothing but the session, which gets a token with its first form.  A
  submission is checked, then applied; what goes wrong in words (a `Fault.problem`) is told on the
  page, anything else is answered by the page of a `failure`.  Canceling leads on to the jobs.

  Main statement: looking at pages changes nothing of the printer (`printer_answer_get`).  It
  follows from `printer_deliver` and `printer_view`, since `deliver` is the one place where a
  request that is no submission changes the console at all.
-/
import PrinterConsole.Control.Defaults
import PrinterConsole.Control.MediaChooser
import PrinterConsole.Driver.DefaultsForm
import PrinterConsole.Driver.MediaForm
import PrinterConsole.Driver.Profile
import PrinterConsole.Identity.Form
import PrinterConsole.Page.Media
import PrinterConsole.Page.Printing
import PrinterConsole.Page.Status
import PrinterConsole.Page.Supplies
import PrinterConsole.Web.Request
import PrinterConsole.Web.Session

namespace PrinterConsole

open PrinterConsole.Web PrinterConsole.Page

/-- The state of the console: its site, its printer and the session of its visitor. -/
structure Console where
  site : Site
  printer : Printer
  session : Session := {}

namespace Console

/-- The printer that a console without a printer of its own serves: a `.labelPrinter` with nothing
    submitted yet. -/
def defaultPrinter (name : String) (limit : Int) : Printer where
  name := name
  driver := .labelPrinter
  identity := .ofName name
  supplies := Supply.ofLabelPrinter
  queue := { limit := limit }

/-! ## Looking at pages -/

/-- What pages show of the printer around their content, as `Page.Surroundings`. -/
def surroundings (c : Console) : Surroundings :=
  ⟨c.site, c.printer.name, c.printer.driver.hasSupplies⟩

/-- Why `pageAt` gives no page: there is no such page (`missing`), or making it failed
    (`failed`). -/
inductive Unshown where
  | missing
  | failed

/-- A page that is made from faultless values.  Any `Fault` on the way makes it `.failed`; what kind
    of fault it was is told nowhere. -/
def shownOr (p : Except Fault Page) : Except Unshown Page := p.mapError fun _ => .failed

/-- The page of a place: with a banner, and about the job with a number.

    Only the supplies of a printer without supplies are `.missing`.  The pages of the jobs are made
    from texts and numbers alone and cannot fail; all others go through `shownOr`, because
    coordinates, speeds, resolutions and sizes may be ones that cannot be written. -/
def pageAt (c : Console) (place : Place) (banner : Option Banner) (job : Int) :
    Except Unshown Page :=
  let site := c.site
  let p := c.printer
  let isBusy := p.state == .processing
  let whole (h : Heading) (content : Page) : Page :=
    layout c.surroundings { h with banner := banner } content
  match place with
  | .status => shownOr do
    let coordinates ← Identity.coordinates p.identity.geoLocation
    return whole { title := p.name, current := some .status, refresh := isBusy }
      (statusContent site p coordinates)
  | .config => shownOr do
    let coordinates ← Identity.coordinates p.identity.geoLocation
    return whole { title := "Configuration", current := some .config }
      (configContent site p.identity coordinates)
  | .printing => shownOr do
    return whole { title := "Printing Defaults", current := some .printing }
      (printingContent site (← p.driver.defaultsPage))
  | .media => shownOr do
    return whole { title := "Media", current := some .media }
      (mediaContent site (← MediaChooser.all p.driver))
  | .supplies =>
    if !p.driver.hasSupplies then .error .missing
    else shownOr do
      return whole { title := "Supplies", current := some .supplies }
        (← suppliesContent p.supplies)
  | .jobs =>
    .ok (whole { title := "Jobs", current := some .jobs, refresh := isBusy }
      (jobsContent site p.queue))
  | .cancel =>
    .ok (whole { title := "Cancel Job", current := some .jobs } (cancelContent site p.queue job))
  | .cancelAll =>
    .ok (whole { title := "Cancel All Jobs", current := some .jobs }
      (cancelAllContent site p.queue))

/-- Delivers a page.  One with a form (`Page.needsToken`) gives the session a token, `fresh` if it
    has none yet, and the page carries it; any other page leaves the session as it is. -/
def deliver (c : Console) (fresh : String) (status : Nat) (p : Page) : Response × Console :=
  if p.needsToken then
    let (token, session) := c.session.issue fresh
    (.page status (p.text token), { c with session := session })
  else (.page status (p.text ""), c)

/-- The answer for an address without a page: the page of the error, with status `404`. -/
def missing (c : Console) (fresh : String) : Response × Console :=
  c.deliver fresh 404 (errorPage c.surroundings "Not Found" "Not found.")

/-- The answer when something fails: the page of the error, with status `500`. -/
def failure (c : Console) (fresh : String) : Response × Console :=
  c.deliver fresh 500
    (errorPage c.surroundings "Error" "An unexpected error occurred. Please try again.")

/-- Shows the page of the `place`, as a GET of it does and as a submission does once it has been
    applied. -/
def view (c : Console) (fresh : String) (place : Place) (banner : Option Banner) (job : Int) :
    Response × Console :=
  match c.pageAt place banner job with
  | .ok p => c.deliver fresh 200 p
  | .error .missing => c.missing fresh
  | .error .failed => c.failure fresh

/-! ## Submitting forms -/

/-- The field with the number of a job. -/
def jobField : String := "job-id"

/-- The form of a submission, if it has fields and the token of the session (`Session.check`).
    Without fields the token is not even looked at. -/
def acceptedForm (s : Session) (fields : List (String × String)) : Except Fault Form := do
  let f := Form.ofPairs fields
  if f.isEmpty then throw (.problem (.emptyForm Problem.emptyFormMessage))
  s.check f
  return f

/-- Cancels the job that a submission names first.  The fields are searched as they came
    (`List.lookup`), not through `Form.ofPairs`, which would keep the last of several values. -/
def cancelNamed (p : Printer) (now : Instant) (fields : List (String × String)) :
    Except Fault Printer :=
  let named := fields.lookup jobField
  let id := Form.jobNumber named
  if id = 0 then
    .error (.problem (.badJobId (named.elim .null .string) Problem.badJobIdMessage))
  else (p.queue.cancel now id).map fun (_, queue) => { p with queue := queue }

/-- Forgets what an `edited` printer tells besides its success; what it has done to the printer
    stays. -/
def outcome {α : Type} (edited : Except Fault α × Printer) : Except Fault Unit × Printer :=
  (edited.1.map fun _ => (), edited.2)

/-- Applies an accepted form `f` of the `place`.  The first part of the result tells how it went,
    the second is the printer afterwards, which an edit that fails in part may have changed all the
    same. -/
def apply (p : Printer) (now : Instant) (place : Place) (f : Form)
    (fields : List (String × String)) : Except Fault Unit × Printer :=
  match place with
  | .config => outcome (p.editIdentity (Identity.applyForm f))
  | .printing => outcome (p.editDriver (DriverOptions.applyDefaultsForm f))
  | .media => outcome (p.editDriver (DriverOptions.submitMediaForm f))
  | .cancel =>
    match cancelNamed p now fields with
    | .ok p' => (.ok (), p')
    | .error e => (.error e, p)
  | .cancelAll => (.ok (), { p with queue := (p.queue.cancelAll now).2 })
  | .status | .supplies | .jobs => (.ok (), p)

/-- Whether a submission to the `Place` leads on to the jobs, by a redirection, instead of showing
    its page again. -/
def leadsToJobs : Place → Bool
  | .cancel | .cancelAll => true
  | _ => false

/-- The banner after a submission that was applied. -/
def savedMessage : String := "Changes saved."

/-- Submits a form to a place.  The page that is shown afterwards is made from the printer as the
    submission left it (`after`), also when the banner tells of a problem. -/
def submit (c : Console) (now : Instant) (fresh : String) (place : Place)
    (fields : List (String × String)) : Response × Console :=
  let job := Form.jobNumber (fields.lookup jobField)
  let applied : Except Fault Unit × Printer :=
    match acceptedForm c.session fields with
    | .error e => (.error e, c.printer)
    | .ok f => apply c.printer now place f fields
  let after := { c with printer := applied.2 }
  match applied.1 with
  | .ok () =>
    if leadsToJobs place then (.redirect 302 (c.site.link .jobs), after)
    else after.view fresh place (some ⟨savedMessage, false⟩) job
  | .error (.problem p) => after.view fresh place (some ⟨p.message, true⟩) job
  | .error _ => after.failure fresh

/-! ## Answers -/

/-- Answers a request at a point in time; `fresh` is the token that a session gets if it needs
    one. -/
def answer (c : Console) (now : Instant) (fresh : String) (r : Request) : Response × Console :=
  match c.site.route r.method r.target with
  | .missing => c.missing fresh
  | .notTaken => (.notTaken, c)
  | .elsewhere location => (.redirect 308 location, c)
  | .place place =>
    match r.method with
    | .get => c.view fresh place none (Form.jobNumber (r.parameter? jobField))
    | .post => c.submit now fresh place r.fields

/-! ## What looking at pages keeps -/

/-- Delivering a page touches the session only: `deliver` rebuilds the console with another
    `session` or not at all. -/
@[simp]
theorem printer_deliver (c : Console) (fresh : String) (status : Nat) (p : Page) :
    (c.deliver fresh status p).2.printer = c.printer := by
  unfold deliver
  split <;> rfl

/-- Showing a page keeps the printer in each of the three ways it can go (`deliver`, `missing`,
    `failure`), all of which end in `printer_deliver`. -/
@[simp]
theorem printer_view (c : Console) (fresh : String) (place : Place) (banner : Option Banner)
    (job : Int) : (c.view fresh place banner job).2.printer = c.printer := by
  unfold view missing failure
  split <;> simp

/-- Whatever is asked for by a GET, the printer stays as it is: `view` is the only thing such a
    request can reach besides the two errors and the redirection. -/
theorem printer_answer_get {c : Console} {now : Instant} {fresh : String} {r : Request}
    (h : r.method = .get) : (c.answer now fresh r).2.printer = c.printer := by
  unfold answer missing
  split
  · simp
  · rfl
  · rfl
  · simp [h]

end Console

end PrinterConsole
