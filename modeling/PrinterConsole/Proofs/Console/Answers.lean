/-
  What a visitor reads in an answer.

  A submission that meets with a problem is answered by the page of its place once more, and that
  page tells the problem in a line of its own above its content (`TellsError`).  What else a page
  is made of does not depend on that line, so the page can be shown again whenever it can be shown
  at all (`CanShow`).

  The argument takes `pageAt` apart once: `exists_pageAt` says that every page is made of
  something that knows nothing of the banner, and a banner that is put in afterwards.  From there
  `canShow_iff` is free of cases, and the text of the page is looked at only at the one place
  where `layout` writes the banner (`tellsError_layout`).

  Main statements: an answer to a problem tells it, exactly if the page of the place can be shown
  (`view_tells_iff`); and a submission that is refused for a problem is answered so
  (`submit_of_refused`).
-/
import PrinterConsole.Proofs.Console.Visits

namespace PrinterConsole

open PrinterConsole.Web PrinterConsole.Page

namespace Page

/-! ## The text of a page in its parts

  The text of a page is that of its parts, so a part is found in it. -/

@[simp] theorem text_append (p q : Page) (token : String) :
    (p ++ q).text token = p.text token ++ q.text token := by
  show String.join ((p.pieces ++ q.pieces).map _) = _
  simp [text, String.join_append]

/-- Markup is its own text, in every session. -/
@[simp] theorem text_fixed (s token : String) : (fixed s).text token = s := by
  simp [text, fixed, Piece.text, String.join]

/-- The text of a value is `escape` of it, in every session. -/
@[simp] theorem text_value (s token : String) : (value s).text token = escape s := by
  simp [text, value, Piece.text, String.join]

/-! ## The line of an error

  That a page tells an error is said of its text: the line with that very banner is in it. -/

/-- A body has a line, marked as an error, with a message: the markup of `bannerLine` stands
    somewhere in it. -/
def TellsError (message body : String) : Prop :=
  ∃ before after,
    body = before ++ ("<div class=\"banner error\">" ++ escape message ++ "</div>") ++ after

/-- What `bannerLine` writes for an error, with the message escaped. -/
theorem text_bannerLine (message token : String) :
    (bannerLine (some ⟨message, true⟩)).text token =
      "<div class=\"banner error\">" ++ escape message ++ "</div>" := by
  simp only [bannerLine, when, text_append, text_fixed, text_value, if_true]
  rfl

/-- **A page with a banner tells it**, whatever else stands on it: `layout` writes `bannerLine`
    between two parts, whose texts are the `before` and `after` of `TellsError`. -/
theorem tellsError_layout {s : Surroundings} {h : Heading} {content : Page} {message : String}
    (hbanner : h.banner = some ⟨message, true⟩) (token : String) :
    TellsError message ((layout s h content).text token) := by
  have hassoc : ∀ a b c d e : String, a ++ b ++ c ++ d ++ e = a ++ b ++ (c ++ (d ++ e)) := by
    intro a b c d e
    simp only [String.append_assoc]
  unfold layout
  rw [text_append, text_append, text_append, text_append, hbanner, text_bannerLine]
  exact ⟨_, _, hassoc _ _ _ _ _⟩

end Page

namespace Console

/-! ## Pages and their banners

  A page is made without its banner and its job number, and these are put in; so whether it can be
  made depends on neither. -/

/-- A page with one thing on it that has to be read first: only the banner is put in afterwards.
    The heading and the content that `made` holds come from the reading, hence do not depend on the
    banner. -/
theorem exists_shownOr {α : Type} (s : Surroundings) (read : Except Fault α) (h : Heading)
    (content : α → Page) :
    ∃ made : Except Unshown (Heading × (Int → Page)), ∀ banner (job : Int),
      shownOr (read.map fun x => layout s { h with banner := banner } (content x)) =
        made.map fun m => layout s { m.1 with banner := banner } (m.2 job) := by
  cases read with
  | error e => exact ⟨.error .failed, fun _ _ => rfl⟩
  | ok x => exact ⟨.ok (h, fun _ => content x), fun _ _ => rfl⟩

/-- **What a page is made of besides its banner.** Only its content may depend on the number of a
    job.  The cases are the places: three are made without fail, the supplies may be missing, and
    the others are `exists_shownOr`. -/
theorem exists_pageAt (c : Console) (place : Place) :
    ∃ made : Except Unshown (Heading × (Int → Page)), ∀ banner job,
      c.pageAt place banner job =
        made.map fun m => layout c.surroundings { m.1 with banner := banner } (m.2 job) := by
  cases place with
  | status =>
    exact exists_shownOr c.surroundings (Identity.coordinates c.printer.identity.geoLocation)
      { title := c.printer.name, current := some .status, refresh := c.printer.state == .processing }
      (statusContent c.site c.printer)
  | config =>
    exact exists_shownOr c.surroundings (Identity.coordinates c.printer.identity.geoLocation)
      { title := "Configuration", current := some .config } (configContent c.site c.printer.identity)
  | printing =>
    exact exists_shownOr c.surroundings c.printer.driver.defaultsPage
      { title := "Printing Defaults", current := some .printing } (printingContent c.site)
  | media =>
    exact exists_shownOr c.surroundings (MediaChooser.all c.printer.driver)
      { title := "Media", current := some .media } (mediaContent c.site)
  | supplies =>
    -- without supplies there is no such page, whatever the banner
    cases hs : c.printer.driver.hasSupplies with
    | false => exact ⟨.error .missing, fun _ _ => by simp [pageAt, hs]; rfl⟩
    | true =>
      obtain ⟨made, hmade⟩ := exists_shownOr c.surroundings (suppliesContent c.printer.supplies)
        { title := "Supplies", current := some .supplies } id
      refine ⟨made, fun banner job => ?_⟩
      rw [← hmade]
      simp only [pageAt, hs]
      rfl
  | jobs =>
    exact ⟨.ok ({ title := "Jobs", current := some .jobs, refresh := c.printer.state == .processing },
      fun _ => jobsContent c.site c.printer.queue), fun _ _ => rfl⟩
  | cancel =>
    exact ⟨.ok ({ title := "Cancel Job", current := some .jobs },
      cancelContent c.site c.printer.queue), fun _ _ => rfl⟩
  | cancelAll =>
    exact ⟨.ok ({ title := "Cancel All Jobs", current := some .jobs },
      fun _ => cancelAllContent c.site c.printer.queue), fun _ _ => rfl⟩

/-- The page of a place can be shown: what it shows of the printer can be read.  Said of the page
    without a banner and for no job, which `canShow_iff` makes all pages of the place. -/
def CanShow (c : Console) (place : Place) : Prop := ∃ p, c.pageAt place none 0 = .ok p

/-- Whether a page can be shown depends neither on its banner nor on the number of a job: both are
    put in after `exists_pageAt` has made the rest. -/
theorem canShow_iff {c : Console} {place : Place} (banner : Option Banner) (job : Int) :
    (∃ p, c.pageAt place banner job = .ok p) ↔ c.CanShow place := by
  obtain ⟨made, hmade⟩ := c.exists_pageAt place
  simp only [CanShow, hmade]
  cases made with
  | error e => exact iff_of_false nofun nofun
  | ok m => exact iff_of_true ⟨_, rfl⟩ ⟨_, rfl⟩

/-- What `deliver` answers is the page with some token, that of the session or none. -/
theorem exists_deliver (c : Console) (fresh : String) (status : Nat) (p : Page) :
    ∃ token, (c.deliver fresh status p).1 = .page status (p.text token) := by
  unfold deliver
  split
  · exact ⟨_, rfl⟩
  · exact ⟨_, rfl⟩

/-- A `failure` changes nothing of the printer, like any page that is delivered. -/
theorem printer_failure (c : Console) (fresh : String) :
    (c.failure fresh).2.printer = c.printer := by
  unfold failure
  exact printer_deliver _ _ _ _

/-- The page of a `failure` has the status 500, so it is no answer with the status 200. -/
theorem failure_fst_ne (c : Console) (fresh body : String) :
    (c.failure fresh).1 ≠ .page 200 body := by
  obtain ⟨token, h⟩ := c.exists_deliver fresh 500
    (errorPage c.surroundings "Error" "An unexpected error occurred. Please try again.")
  intro hbody
  rw [failure, h] at hbody
  cases hbody

/-- **A page with a banner is shown exactly if the page can be shown at all**, and it tells the
    banner.  If it cannot be shown the answer is that of `missing` or `failure`, which have another
    status. -/
theorem view_tells_iff (c : Console) (fresh : String) (place : Place) (message : String)
    (job : Int) :
    (∃ body, (c.view fresh place (some ⟨message, true⟩) job).1 = .page 200 body ∧
      TellsError message body) ↔ c.CanShow place := by
  rw [← canShow_iff (some ⟨message, true⟩) job]
  obtain ⟨made, hmade⟩ := c.exists_pageAt place
  unfold view
  rw [hmade]
  cases made with
  | error why =>
    refine iff_of_false ?_ nofun
    rintro ⟨body, hbody, -⟩
    cases why with
    | failed => exact failure_fst_ne c fresh body hbody
    | missing =>
      obtain ⟨token, h⟩ := c.exists_deliver fresh 404
        (errorPage c.surroundings "Not Found" "Not found.")
      simp only [Except.map, missing, h] at hbody
      cases hbody
  | ok m =>
    refine iff_of_true ?_ ⟨_, rfl⟩
    obtain ⟨token, h⟩ := c.exists_deliver fresh 200
      (layout c.surroundings { m.1 with banner := some ⟨message, true⟩ } (m.2 job))
    exact ⟨_, h, tellsError_layout rfl token⟩

/-! ## Submissions

  A submission that fails for a problem shows its page again with a banner; one that fails otherwise
  is answered by the page of a failure. -/

/-- At the path of a place that takes forms, a request that submits is answered as a submission
    (`route_pathOf`). -/
theorem answer_of_post {c : Console} {now : Instant} {fresh : String} {r : Request} {place : Place}
    (hpost : r.method = .post) (hpath : r.target.path = c.site.pathOf place)
    (hplace : place.takesForms = true) :
    c.answer now fresh r = c.submit now fresh place r.fields := by
  have hroute : c.site.route r.method r.target = .place place := by
    rw [Site.route_pathOf c.site hpath, hpost]
    exact if_pos hplace
  rw [hpost] at hroute
  simp only [answer, hpost, hroute]

/-- **A submission that is refused** by `acceptedForm` changes nothing, and is answered by the page
    of its place that tells the problem, or by the page of a `failure` if the fault is no
    problem. -/
theorem submit_of_refused {c : Console} {now : Instant} {fresh : String} {place : Place}
    {fields : List (String × String)} {why : Fault} (h : acceptedForm c.session fields = .error why) :
    c.submit now fresh place fields =
      match why with
      | .problem p =>
        c.view fresh place (some ⟨p.message, true⟩) (Form.jobNumber (fields.lookup jobField))
      | _ => c.failure fresh := by
  unfold submit
  simp only [h]
  cases why <;> rfl

end Console

end PrinterConsole
