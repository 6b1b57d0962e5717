/-
  The structure of pages does not depend on the texts they show.

  Names of the printer and of jobs, owners, the texts of the identity and the descriptions of
  supplies are put into pages as values.  Two printers that are alike but for such texts
  (`Printer.Alike`) have, at every address, pages with the same angle brackets and quotes in the
  same order: what someone calls a printer, a job or a supply cannot open or close any markup, nor
  decide which parts of a page there are.

  The argument is about the pieces of a page, not about its text: pages with the same skeleton
  have the same structure, and `skeleton_pageAt` goes through the places once to see that alike
  printers have pages with the same skeleton.  The parts of the pages are dealt with in
  `Proofs.Page.Skeleton`; here they are only put together.

  Main statement: `page_structure_of_alike`.
-/
import PrinterConsole.Proofs.Console.Answers
import PrinterConsole.Proofs.Page.Skeleton

namespace PrinterConsole

open PrinterConsole.Web PrinterConsole.Page

/-- The printers `p` and `q` are alike but for texts: they have the same driver options and status,
    jobs and supplies that are alike one by one, and the same fields of the identity set.  The names
    of the printers may differ, as may their state files. -/
structure Printer.Alike (p q : Printer) : Prop where
  driver_eq : p.driver = q.driver
  state_eq : p.state = q.state
  reasons_eq : p.reasons = q.reasons
  queue : p.queue.Alike q.queue
  supplies : List.Forall₂ Supply.Alike p.supplies q.supplies
  identity : p.identity.Alike q.identity

namespace Console

/-! ## The page of a place

  Each place has its own content, for which alike printers agree; a page that cannot be made cannot
  be made for either. -/

/-- Contents that are made in the same way make pages with the same skeleton, if they can be made.
    That both can be made or neither is part of `hmade`, an equation of results. -/
theorem skeleton_shownOr {s t : Surroundings} {h k : Heading} {made made' : Except Fault Page}
    (hsite : s.site = t.site) (hsupplies : s.showSupplies = t.showSupplies)
    (hcurrent : h.current = k.current) (hrefresh : h.refresh = k.refresh)
    (hbanner : h.banner = k.banner) (hmade : made.map skeleton = made'.map skeleton) :
    (shownOr (made.map (layout s h))).map skeleton =
      (shownOr (made'.map (layout t k))).map skeleton := by
  cases made with
  | error e =>
    cases made' with
    -- Both sides are this error; `rfl` alone would compare the two layouts, which are not made.
    | error e' => exact Eq.refl (Except.error Unshown.failed)
    | ok content' => cases hmade
  | ok content =>
    cases made' with
    | error e' => cases hmade
    | ok content' =>
      exact congrArg Except.ok
        (skeleton_layout hsite hsupplies hcurrent hrefresh hbanner (Except.ok.inj hmade))

/-- **The page of a place** has the same `skeleton` for both printers, if it can be shown, and
    cannot be shown for the same reason otherwise. -/
theorem skeleton_pageAt {c d : Console} (hsite : c.site = d.site) (h : c.printer.Alike d.printer)
    (place : Place) (banner : Option Banner) (job : Int) :
    (c.pageAt place banner job).map skeleton = (d.pageAt place banner job).map skeleton := by
  have hsupplies : c.surroundings.showSupplies = d.surroundings.showSupplies :=
    congrArg DriverOptions.hasSupplies h.driver_eq
  obtain ⟨here, hhere⟩ := Identity.exists_coordinates_of_text h.identity.geoLocation.isText_left
  obtain ⟨there, hthere⟩ := Identity.exists_coordinates_of_text h.identity.geoLocation.isText_right
  have hbusy : (c.printer.state == .processing) = (d.printer.state == .processing) := by
    rw [h.state_eq]
  cases place with
  | status =>
    -- the texts of the identity are values on this page, and coordinates are shown for both
    simp only [pageAt, hhere, hthere]
    refine congrArg Except.ok (skeleton_layout hsite hsupplies rfl hbusy rfl ?_)
    simp only [statusContent, statusPart, button, skeleton_append, skeleton_value, skeleton_when,
      skeleton_link, hsite, h.driver_eq, skeleton_allJobs _ h.queue,
      skeleton_identityPart _ h.identity here there]
  | config =>
    simp only [pageAt, hhere, hthere]
    refine congrArg Except.ok (skeleton_layout hsite hsupplies rfl rfl rfl ?_)
    rw [hsite]
    exact skeleton_configContent _ _ _ here there
  | printing =>
    -- the same driver fails for both or gives one and the same page
    simp only [pageAt, ← h.driver_eq, ← hsite]
    cases c.printer.driver.defaultsPage with
    | error e => exact Eq.refl (Except.error Unshown.failed)
    | ok page => exact congrArg Except.ok (skeleton_layout hsite hsupplies rfl rfl rfl rfl)
  | media =>
    simp only [pageAt, ← h.driver_eq, ← hsite]
    cases MediaChooser.all c.printer.driver with
    | error e => exact Eq.refl (Except.error Unshown.failed)
    | ok choosers => exact congrArg Except.ok (skeleton_layout hsite hsupplies rfl rfl rfl rfl)
  | supplies =>
    simp only [pageAt, h.driver_eq]
    split
    · rfl
    · exact skeleton_shownOr hsite hsupplies rfl rfl rfl (skeleton_suppliesContent h.supplies)
  | jobs =>
    refine congrArg Except.ok (skeleton_layout hsite hsupplies rfl hbusy rfl ?_)
    rw [hsite]
    exact skeleton_jobsContent _ h.queue
  | cancel =>
    refine congrArg Except.ok (skeleton_layout hsite hsupplies rfl rfl rfl ?_)
    rw [hsite]
    exact skeleton_cancelContent _ h.queue job
  | cancelAll =>
    refine congrArg Except.ok (skeleton_layout hsite hsupplies rfl rfl rfl ?_)
    rw [hsite]
    exact skeleton_cancelAllContent _ h.queue

/-! ## Answers

  The answer to a request for a page is that page, or a page of an error that looks at neither
  printer. -/

/-- Two answers are pages with the same status code and the same structural characters
    (`structureOf`). -/
def SameStructure (r s : Response) : Prop :=
  ∃ status body body', r = .page status body ∧ s = .page status body' ∧
    structureOf body = structureOf body'

/-- Delivering pages with the same skeleton gives answers of the same structure (`SameStructure`),
    with any two tokens. -/
theorem sameStructure_deliver (c d : Console) (fresh fresh' : String) (status : Nat) {p q : Page}
    (h : p.skeleton = q.skeleton) :
    SameStructure (c.deliver fresh status p).1 (d.deliver fresh' status q).1 := by
  obtain ⟨token, hc⟩ := c.exists_deliver fresh status p
  obtain ⟨token', hd⟩ := d.exists_deliver fresh' status q
  refine ⟨status, _, _, hc, hd, ?_⟩
  rw [structureOf_text, structureOf_text, h]

/-- Pages that tell an error (`errorPage`) have the same structure for all printers of a site; only
    their names differ. -/
theorem skeleton_errorPage {c d : Console} (hsite : c.site = d.site)
    (hsupplies : c.surroundings.showSupplies = d.surroundings.showSupplies)
    (title message : String) :
    (errorPage c.surroundings title message).skeleton =
      (errorPage d.surroundings title message).skeleton := by
  refine skeleton_layout hsite hsupplies rfl rfl rfl ?_
  simp only [skeleton_append, skeleton_link]

/-- Two views of one `place` have the same structure, whether the page is shown, missing or
    failed. -/
theorem sameStructure_view {c d : Console} (hsite : c.site = d.site)
    (h : c.printer.Alike d.printer) (fresh fresh' : String) (place : Place)
    (banner : Option Banner) (job : Int) :
    SameStructure (c.view fresh place banner job).1 (d.view fresh' place banner job).1 := by
  have hsupplies : c.surroundings.showSupplies = d.surroundings.showSupplies :=
    congrArg DriverOptions.hasSupplies h.driver_eq
  have hpage := skeleton_pageAt hsite h place banner job
  unfold view
  cases hc : c.pageAt place banner job <;> cases hd : d.pageAt place banner job <;>
    rw [hc, hd] at hpage
  case error.error why why' =>
    cases hpage
    cases why with
    | missing => exact sameStructure_deliver c d _ _ _ (skeleton_errorPage hsite hsupplies _ _)
    | failed => exact sameStructure_deliver c d _ _ _ (skeleton_errorPage hsite hsupplies _ _)
  case error.ok => cases hpage
  case ok.error => cases hpage
  case ok.ok p q => exact sameStructure_deliver c d _ _ _ (Except.ok.inj hpage)

/-- **The structure of a page does not depend on the texts it shows.** For consoles of one site
    whose printers are alike but for texts (`Printer.Alike`), every request for a page is answered
    by both with a page, with the same status code and the same angle brackets and quotes in the
    same order. -/
theorem page_structure_of_alike {c d : Console} (hsite : c.site = d.site)
    (h : c.printer.Alike d.printer) {r : Request} (hget : r.method = .get) {place : Place}
    (hpath : r.target.path = c.site.pathOf place) (now now' : Instant) (fresh fresh' : String) :
    SameStructure (c.answer now fresh r).1 (d.answer now' fresh' r).1 := by
  have hroute : c.site.route .get r.target = .place place := by
    rw [Site.route_pathOf c.site hpath]
    exact if_pos rfl
  have hroute' : d.site.route .get r.target = .place place := hsite ▸ hroute
  simp only [answer, hget, hroute, hroute']
  exact sameStructure_view hsite h fresh fresh' place none _

/-- A name, an owner and a location full of markup leave the structure of the status page as it
    is. -/
theorem page_structure_of_alike_markup :
    let job (name owner : String) : Job := ⟨1, name, owner, .processing, 0, false, none, none, none⟩
    let printer (name location : String) (j : Job) : Printer :=
      { name := name, driver := .labelPrinter, identity := { location := .string location }
        state := .processing, queue := { jobs := [j], nextId := 2 } }
    let c : Console := ⟨{}, printer "Labels" "Hall" (job "a.pdf" "al"), ⟨some "ab"⟩⟩
    let d : Console := ⟨{}, printer "</h1>" "<b>\"" (job "<script>" "\">"), ⟨some "ab"⟩⟩
    let r : Request := ⟨.get, { path := "/" }, []⟩
    (c.site = d.site ∧ c.printer.Alike d.printer ∧ r.method = .get ∧
        r.target.path = c.site.pathOf .status) ∧
      SameStructure (c.answer ⟨0⟩ "new" r).1 (d.answer ⟨0⟩ "new" r).1 := by
  intro job printer c d r
  have hunset : Json.SameEmptiness .null .null := ⟨.inl rfl, .inl rfl, rfl⟩
  have htext : ∀ {s t : String}, (Json.string s).truthy = (Json.string t).truthy →
      Json.SameEmptiness (.string s) (.string t) := fun h => ⟨.inr ⟨_, rfl⟩, .inr ⟨_, rfl⟩, h⟩
  have halike : c.printer.Alike d.printer :=
    { driver_eq := rfl
      state_eq := rfl
      reasons_eq := rfl
      queue := .cons ⟨rfl, rfl, rfl⟩ .nil
      supplies := .nil
      identity :=
        ⟨hunset, htext (by decide), hunset, hunset, hunset, htext rfl, htext rfl, htext rfl⟩ }
  have hpath : r.target.path = c.site.pathOf .status := by decide
  exact ⟨⟨rfl, halike, rfl, hpath⟩,
    page_structure_of_alike (c := c) (d := d) rfl halike rfl hpath ⟨0⟩ ⟨0⟩ "new" "new"⟩

end Console

end PrinterConsole
