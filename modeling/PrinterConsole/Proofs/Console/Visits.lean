/-
  What visitors can change.

  A console answers the requests of many visitors, one after another, and every request brings the
  session of its visitor along (`Visit`).  Looking at a page changes nothing of the printer.  A
  submission changes something only if it carries the token of the session it comes with, and then
  no more than what the form of its place is about (`Place.parts`): the configuration is about the
  identity, the print defaults and the media are about the driver options, both of which are
  saved, and canceling is about the job queue.

  The argument goes from one answer to a run.  What an answer does to the printer is read off once
  (`printer_submit`, `acceptedForm_eq_ok_iff`); from it follows what one visit leaves alone
  (`mem_parts_of_changed`), and by induction on the run that whatever a run changes was changed by
  a visit with a token at a place about it (`exists_visit_of_changed`).

  `SameBut` is said of a list of parts instead of one statement for each, so that what an edit, a
  form, a visit and a run leave alone is one notion, and transitivity carries it from each to the
  next.

  Main statement: `changes_need_token`.
-/
import PrinterConsole.Console
import PrinterConsole.Proofs.State.Edits

namespace PrinterConsole

open PrinterConsole.Web PrinterConsole.Page

/-! ## Parts of a printer

  A printer has parts, and an operation touches some of them.  `SameBut` says that all others are
  the same, so it goes along a run with the parts put together. -/

namespace Printer

/-- The parts of a printer, one for each field, the state and its reasons being one. -/
inductive Part where
  | name | identity | driver | supplies | status | queue | file
  deriving DecidableEq, Repr

/-- The printers `p` and `q` have the same part. -/
def Part.Same (p q : Printer) : Part → Prop
  | .name => p.name = q.name
  | .identity => p.identity = q.identity
  | .driver => p.driver = q.driver
  | .supplies => p.supplies = q.supplies
  | .status => p.state = q.state ∧ p.reasons = q.reasons
  | .queue => p.queue = q.queue
  | .file => p.file = q.file

/-- Two printers are the same but for the given parts: `Part.Same` of every other part. -/
def SameBut (parts : List Part) (p q : Printer) : Prop := ∀ part, part ∉ parts → part.Same p q

theorem Part.Same.refl (p : Printer) (part : Part) : part.Same p p := by
  cases part with
  | status => exact ⟨rfl, rfl⟩
  | _ => exact Eq.refl _

/-- A part that stays the same twice stays the same; with `Part.Same.refl` this makes runs of
    visits. -/
theorem Part.Same.trans {p q r : Printer} {part : Part} (hpq : part.Same p q)
    (hqr : part.Same q r) : part.Same p r := by
  cases part with
  | status => exact ⟨hpq.1.trans hqr.1, hpq.2.trans hqr.2⟩
  | _ => exact Eq.trans hpq hqr

theorem SameBut.refl (parts : List Part) (p : Printer) : SameBut parts p p :=
  fun part _ => .refl p part

/-- Printers that are `SameBut` for nothing are the same: the parts are all there is to a
    printer. -/
theorem SameBut.eq {p q : Printer} (h : SameBut [] p q) : q = p := by
  have hpart : ∀ part : Part, part.Same p q := fun part => h part List.not_mem_nil
  obtain ⟨hstate, hreasons⟩ := hpart .status
  have hname : p.name = q.name := hpart .name
  have hidentity : p.identity = q.identity := hpart .identity
  have hdriver : p.driver = q.driver := hpart .driver
  have hsupplies : p.supplies = q.supplies := hpart .supplies
  have hqueue : p.queue = q.queue := hpart .queue
  have hfile : p.file = q.file := hpart .file
  cases p
  cases q
  simp_all

/-- What an `Edit` is about: the identity or the driver options, and the file in which both are
    saved. -/
def Edit.parts : Edit → List Part
  | .identity _ => [.identity, .file]
  | .driver _ | .readyMedia _ => [.driver, .file]

/-- What a block makes differs in what its edit is about (`Edit.parts`), before anything is
    saved. -/
theorem sameBut_applied {p made : Printer} {e : Edit} (h : e.applied p = .ok made) :
    SameBut e.parts p made := by
  intro part hpart
  cases e with
  | identity edit =>
    obtain ⟨r, -, rfl⟩ := map_eq_ok.1 h
    cases part <;> simp_all [Edit.parts, Part.Same]
  | driver edit =>
    obtain ⟨r, -, rfl⟩ := map_eq_ok.1 h
    cases part <;> simp_all [Edit.parts, Part.Same]
  | readyMedia media =>
    cases h
    cases part <;> simp_all [Edit.parts, Part.Same]

/-- Saving changes the file and nothing else (`driver_save` is the part of it that edits ask
    for). -/
theorem sameBut_save (p : Printer) : SameBut [.file] p p.save.2 := by
  obtain ⟨file, hfile⟩ := save_frame p
  rw [hfile]
  intro part hpart
  cases part <;> simp_all [Part.Same]

/-- **An edit changes nothing but what it is about**: a block that is kept changes its parts
    (`sameBut_applied`), and saving only the file, which is one of them. -/
theorem sameBut_perform (p : Printer) (e : Edit) : SameBut e.parts p (p.perform e).2 := by
  rcases perform_cases p e with ⟨made, h, -, hsave⟩ | ⟨why, hsame⟩
  · intro part hpart
    have hfile : part ∉ [Part.file] := by
      intro hmem
      obtain rfl := List.mem_singleton.1 hmem
      exact hpart (by cases e <;> simp [Edit.parts])
    rw [hsave]
    exact (sameBut_applied h part hpart).trans (sameBut_save made part hfile)
  · rw [hsame]
    exact .refl _ p

theorem sameBut_queue (p : Printer) (queue : JobQueue) :
    SameBut [.queue] p { p with queue := queue } := by
  intro part hpart
  cases part <;> simp_all [Part.Same]

end Printer

/-- What the form of a `Place` is about, as parts of the printer. -/
def Web.Place.parts : Place → List Printer.Part
  | .config => [.identity, .file]
  | .printing | .media => [.driver, .file]
  | .cancel | .cancelAll => [.queue]
  | .status | .supplies | .jobs => []

/-- The `fields` of a submission carry the token of the session `s`: it is the last text under the
    name of the token.  A session without a token, or with an empty one, has none to carry. -/
def Web.Session.IsCarriedBy (s : Session) (fields : List (String × String)) : Prop :=
  ∃ t, s.token = some t ∧ t ≠ "" ∧ fields.reverse.lookup Session.tokenName = some t

namespace Console

/-! ## One answer

  A request is turned away before its form is looked at, if the token is not right.  Otherwise the
  place that it goes to decides on the parts that may change. -/

/-- To cancel a job is to change the queue and no other part of the printer. -/
theorem queue_of_cancelNamed {p p' : Printer} {now : Instant} {fields : List (String × String)}
    (h : cancelNamed p now fields = .ok p') : ∃ queue, p' = { p with queue := queue } := by
  unfold cancelNamed at h
  dsimp only at h
  split at h
  · cases h
  · obtain ⟨⟨applied, queue⟩, -, rfl⟩ := map_eq_ok.1 h
    exact ⟨queue, rfl⟩

/-- **The form of a place changes nothing but what it is about** (`Place.parts`), also when applying
    it fails. -/
theorem sameBut_apply (p : Printer) (now : Instant) (place : Place) (f : Form)
    (fields : List (String × String)) :
    Printer.SameBut place.parts p (apply p now place f fields).2 := by
  cases place with
  | config => exact Printer.sameBut_perform p (.identity (Identity.applyForm f))
  | printing => exact Printer.sameBut_perform p (.driver (DriverOptions.applyDefaultsForm f))
  | media => exact Printer.sameBut_perform p (.driver (DriverOptions.submitMediaForm f))
  | cancel =>
    unfold apply
    dsimp only
    split
    · rename_i p' hp'
      obtain ⟨queue, rfl⟩ := queue_of_cancelNamed hp'
      exact Printer.sameBut_queue p queue
    · exact .refl _ p
  | cancelAll => exact Printer.sameBut_queue p _
  | status | supplies | jobs => exact .refl _ p

/-- The token of a session passes if it is what the fields carry and can be compared:
    `check_eq_ok_iff`, with the last text of the fields in place of that of the form
    (`value?_ofPairs`). -/
theorem check_ofPairs_eq_ok_iff {s : Session} {fields : List (String × String)} :
    s.check (Form.ofPairs fields) = .ok () ↔
      s.IsCarriedBy fields ∧ ∀ t ∈ s.token, Session.isComparable t = true := by
  rw [Session.check_eq_ok_iff, Form.value?_ofPairs]
  constructor
  · rintro ⟨t, ht, hcomparable, hsent⟩
    obtain ⟨htoken, hne⟩ := Option.filter_eq_some_iff.1 ht
    have hne' : t ≠ "" := by simpa using hne
    -- an absent field counts as an empty text, which is no token
    cases hlast : fields.reverse.lookup Session.tokenName with
    | none =>
      rw [hlast] at hsent
      exact absurd hsent.symm hne'
    | some sent =>
      rw [hlast] at hsent
      obtain rfl : sent = t := hsent
      refine ⟨⟨sent, htoken, hne', hlast⟩, ?_⟩
      intro u hu
      obtain rfl : sent = u := Option.some.inj (htoken.symm.trans hu)
      exact hcomparable
  · rintro ⟨⟨t, htoken, hne, hsent⟩, hcomparable⟩
    refine ⟨t, Option.filter_eq_some_iff.2 ⟨htoken, by simpa using hne⟩, hcomparable t htoken, ?_⟩
    rw [hsent]
    rfl

/-- **A form is accepted if its fields carry the token of the session** (`IsCarriedBy`), and only
    then; a token that cannot be compared is not accepted either.  That there are fields at all need
    not be asked, as the token is one. -/
theorem acceptedForm_eq_ok_iff {s : Session} {fields : List (String × String)} {f : Form} :
    acceptedForm s fields = .ok f ↔
      f = Form.ofPairs fields ∧ s.IsCarriedBy fields ∧
        ∀ t ∈ s.token, Session.isComparable t = true := by
  unfold acceptedForm
  by_cases hempty : (Form.ofPairs fields).isEmpty
  · -- no fields carry no token
    have hcarried : ¬ s.IsCarriedBy fields := by
      rintro ⟨t, -, -, hsent⟩
      rw [← Form.value?_ofPairs, Form.value?, Form.field?, List.isEmpty_iff.1 hempty] at hsent
      cases hsent
    simp [hempty, hcarried, throw, throwThe, MonadExceptOf.throw, bind, Except.bind]
  · rw [← check_ofPairs_eq_ok_iff]
    cases hc : s.check (Form.ofPairs fields) <;>
      simp [hempty, hc, bind, Except.bind, pure, Except.pure, eq_comm]

/-- **What a submission makes of the printer** is what `apply` makes of it at its place, if the form
    is accepted; an answer changes nothing more, whichever of the answers it is. -/
theorem printer_submit (c : Console) (now : Instant) (fresh : String) (place : Place)
    (fields : List (String × String)) :
    (c.submit now fresh place fields).2.printer =
      match acceptedForm c.session fields with
      | .error _ => c.printer
      | .ok f => (apply c.printer now place f fields).2 := by
  unfold submit failure
  cases acceptedForm c.session fields with
  | error e =>
    dsimp only
    cases e <;> simp
  | ok f =>
    dsimp only
    generalize apply c.printer now place f fields = applied
    obtain ⟨answer, after⟩ := applied
    cases answer with
    | error e =>
      dsimp only
      cases e <;> simp
    | ok _ =>
      dsimp only
      split <;> simp

/-! ## One visit

  A visit is a request with the session it comes with.  The session may get a token from an answer,
  but that changes nothing in the printer. -/

/-- A request with the `session` that its visitor brings along. -/
structure Visit where
  session : Session
  now : Instant
  /-- The token that the session gets if it needs one. -/
  fresh : String
  request : Request

/-- The submission of the visit `v` carries the token of its session. -/
def Visit.HasToken (v : Visit) : Prop :=
  v.request.method = .post ∧ v.session.IsCarriedBy v.request.fields

/-- Answers the visit `v`: its session takes the place of the one before, as every visitor brings
    one. -/
def receive (c : Console) (v : Visit) : Response × Console :=
  { c with session := v.session }.answer v.now v.fresh v.request

/-- The console after the `visits`, one after another, whatever they are answered. -/
def visited (c : Console) (visits : List Visit) : Console :=
  visits.foldl (fun c v => (c.receive v).2) c

@[simp]
theorem site_deliver (c : Console) (fresh : String) (status : Nat) (p : Page) :
    (c.deliver fresh status p).2.site = c.site := by
  unfold deliver
  split <;> rfl

@[simp]
theorem site_view (c : Console) (fresh : String) (place : Place) (banner : Option Banner)
    (job : Int) : (c.view fresh place banner job).2.site = c.site := by
  unfold view missing failure
  split <;> simp

/-- No submission changes where the pages are. -/
theorem site_submit (c : Console) (now : Instant) (fresh : String) (place : Place)
    (fields : List (String × String)) : (c.submit now fresh place fields).2.site = c.site := by
  unfold submit failure
  dsimp only
  split
  · split <;> simp
  · simp
  · simp

/-- No answer moves the pages (`site`), so the paths that a run is told by are those of its
    beginning. -/
@[simp]
theorem site_receive (c : Console) (v : Visit) : (c.receive v).2.site = c.site := by
  unfold receive answer missing
  split
  · simp
  · rfl
  · rfl
  · split
    · simp
    · exact site_submit _ _ _ _ _

/-- A request leads to a place only from the path of the place: any other way to it is by a
    redirection, which is no `Route.place`. -/
theorem path_eq_of_route {site : Site} {m : Method} {t : Target} {place : Place}
    (h : site.route m t = .place place) : t.path = site.pathOf place := by
  unfold Site.route at h
  cases hat : site.placeAt? t.path with
  | none =>
    simp only [hat] at h
    repeat' split at h
    all_goals cases h
  | some found =>
    simp only [hat] at h
    split at h
    · cases h
      unfold Site.placeAt? at hat
      have hpath := List.find?_some hat
      exact (eq_of_beq hpath).symm
    · cases h

/-- **A submission with the token of its session does what the form of its place does** (`apply`),
    at the path of a place that takes forms. -/
theorem printer_receive_of_hasToken {c : Console} {v : Visit} {place : Place}
    (hv : v.HasToken) (hcomparable : ∀ t ∈ v.session.token, Session.isComparable t = true)
    (hpath : v.request.target.path = c.site.pathOf place) (hplace : place.takesForms = true) :
    (c.receive v).2.printer =
      (apply c.printer v.now place (Form.ofPairs v.request.fields) v.request.fields).2 := by
  obtain ⟨hpost, hcarried⟩ := hv
  have hroute : c.site.route v.request.method v.request.target = .place place := by
    rw [Site.route_pathOf c.site hpath, hpost]
    exact if_pos hplace
  have haccepted : acceptedForm v.session v.request.fields = .ok (Form.ofPairs v.request.fields) :=
    acceptedForm_eq_ok_iff.2 ⟨rfl, hcarried, hcomparable⟩
  unfold receive answer
  rw [hpost] at hroute ⊢
  simp only [hroute, printer_submit, haccepted]

/-- **What a visit changes**, it changes with the token of its session, at the path of a place that
    is about it.  This is the step; `exists_visit_of_changed` is the run. -/
theorem mem_parts_of_changed {c : Console} {v : Visit} {part : Printer.Part}
    (h : ¬ part.Same c.printer (c.receive v).2.printer) :
    v.HasToken ∧ ∃ place, v.request.target.path = c.site.pathOf place ∧ part ∈ place.parts := by
  have hpost : v.request.method = .post := by
    cases hm : v.request.method with
    | post => rfl
    | get =>
      refine absurd ?_ h
      have hsame : (c.receive v).2.printer = c.printer := printer_answer_get hm
      rw [hsame]
      exact .refl _ part
  unfold receive answer at h
  rw [hpost] at h
  cases hroute : c.site.route .post v.request.target with
  | missing => simp [hroute, missing, Printer.Part.Same.refl] at h
  | notTaken => simp [hroute, Printer.Part.Same.refl] at h
  | elsewhere location => simp [hroute, Printer.Part.Same.refl] at h
  | place place =>
    simp only [hroute, printer_submit] at h
    cases haccepted : acceptedForm v.session v.request.fields with
    | error e => simp [haccepted, Printer.Part.Same.refl] at h
    | ok f =>
      simp only [haccepted] at h
      obtain ⟨-, hcarried, -⟩ := acceptedForm_eq_ok_iff.1 haccepted
      refine ⟨⟨hpost, hcarried⟩, place, path_eq_of_route hroute, ?_⟩
      -- the submission was accepted, and the place changes its own parts alone
      by_contra hpart
      exact h (sameBut_apply c.printer v.now place f v.request.fields part hpart)

/-- A visit without the token of its session changes nothing: by `mem_parts_of_changed` no part
    differs. -/
theorem printer_receive_of_not_hasToken {c : Console} {v : Visit} (h : ¬ v.HasToken) :
    (c.receive v).2.printer = c.printer := by
  refine Printer.SameBut.eq fun part _ => ?_
  by_contra hchanged
  exact h (mem_parts_of_changed hchanged).1

/-! ## Runs of visits

  Where a printer has changed there was a visit that changed it: an induction on the visits, with
  the last one apart. -/

/-- A run does not move the pages, by `site_receive`. -/
@[simp]
theorem site_visited (c : Console) (visits : List Visit) : (c.visited visits).site = c.site := by
  unfold visited
  induction visits generalizing c with
  | nil => rfl
  | cons v rest ih => rw [List.foldl_cons, ih, site_receive]

/-- **What visits change, one of them changes**, with the token of its session and at the path of a
    place that is about it (`Place.parts`).  By induction on the run: a part that differs at the end
    differs after the first visit, or between there and the end. -/
theorem exists_visit_of_changed {c : Console} {visits : List Visit} {part : Printer.Part}
    (h : ¬ part.Same c.printer (c.visited visits).printer) :
    ∃ v ∈ visits, v.HasToken ∧
      ∃ place, v.request.target.path = c.site.pathOf place ∧ part ∈ place.parts := by
  induction visits generalizing c with
  | nil => exact absurd (.refl _ part) h
  | cons v rest ih =>
    by_cases hfirst : part.Same c.printer (c.receive v).2.printer
    · -- the first visit keeps the part, so a later one changes it
      have hrest : ¬ part.Same (c.receive v).2.printer ((c.receive v).2.visited rest).printer :=
        fun hsame => h (hfirst.trans hsame)
      obtain ⟨w, hw, htoken, hplace⟩ := ih hrest
      rw [site_receive] at hplace
      exact ⟨w, List.mem_cons_of_mem v hw, htoken, hplace⟩
    · obtain ⟨htoken, hplace⟩ := mem_parts_of_changed hfirst
      exact ⟨v, List.mem_cons_self, htoken, hplace⟩

/-- **Nothing changes without a token, and a place changes only what it is about.** Whatever console
    visitors find and whatever sessions they bring, at every visit of every run: looking at a page
    changes nothing of the printer; neither does a submission that does not carry the token of its
    session (`Visit.HasToken`), however it is answered; and a submission that carries it, and could
    be compared with it, does what the form of its place does, which is to leave alone whatever the
    place is not about.  So what the whole run changes, a submission with a token has changed at a
    place about it. -/
theorem changes_need_token (c : Console) (earlier : List Visit) (v : Visit) :
    let before := (c.visited earlier).printer
    let after := (c.visited (earlier ++ [v])).printer
    (v.request.method = .get → after = before) ∧
      (v.request.method = .post → ¬ v.session.IsCarriedBy v.request.fields → after = before) ∧
      (∀ place, v.request.target.path = c.site.pathOf place →
        Printer.SameBut place.parts before after ∧
          (place.takesForms → v.HasToken →
            (∀ t ∈ v.session.token, Session.isComparable t = true) →
            after = (apply before v.now place (Form.ofPairs v.request.fields)
              v.request.fields).2)) ∧
      ((∀ place, v.request.target.path ≠ c.site.pathOf place) → after = before) ∧
      ∀ part : Printer.Part, ¬ part.Same c.printer after →
        ∃ w ∈ earlier ++ [v], w.HasToken ∧
          ∃ place, w.request.target.path = c.site.pathOf place ∧ part ∈ place.parts := by
  intro before after
  have hafter : after = ((c.visited earlier).receive v).2.printer := by
    simp only [after, visited, List.foldl_append, List.foldl_cons, List.foldl_nil]
  have hwithout : ¬ v.HasToken → after = before := fun h =>
    hafter.trans (printer_receive_of_not_hasToken h)
  have hchanged : ∀ part : Printer.Part, ¬ part.Same before after →
      v.HasToken ∧ ∃ place, v.request.target.path = c.site.pathOf place ∧ part ∈ place.parts := by
    intro part h
    rw [hafter] at h
    simpa only [site_visited] using mem_parts_of_changed h
  refine ⟨?_, ?_, ?_, ?_, fun part h => exists_visit_of_changed h⟩
  · intro hget
    refine hwithout fun ⟨hpost, _⟩ => ?_
    rw [hget] at hpost
    cases hpost
  · exact fun _ hcarried => hwithout fun htoken => hcarried htoken.2
  · intro place hpath
    constructor
    · intro part hpart
      by_contra h
      obtain ⟨-, found, hfound, hmem⟩ := hchanged part h
      -- a path is the path of one place only
      have hsame : found = place := by
        have hbeq := Site.pathOf_beq c.site found place
        rw [← hfound, ← hpath, beq_self_eq_true] at hbeq
        exact eq_of_beq hbeq.symm
      exact hpart (hsame ▸ hmem)
    · intro hplace htoken hcomparable
      rw [hafter]
      exact printer_receive_of_hasToken htoken hcomparable
        (hpath.trans (by rw [site_visited])) hplace
  · intro hnowhere
    refine Printer.SameBut.eq fun part _ => ?_
    by_contra h
    obtain ⟨-, place, hpath, -⟩ := hchanged part h
    exact hnowhere place hpath

end Console

end PrinterConsole
