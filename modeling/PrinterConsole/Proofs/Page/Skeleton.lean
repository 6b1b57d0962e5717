/-
  What the structure of a page depends on.

  The brackets and quotes of a page are those of its fixed parts, in their order: its `skeleton`.
  A text that is put into a page adds nothing to it, so two pages that are put together in the
  same way have the same skeleton, whatever texts they show.  What is left is which parts there
  are, and that depends on whether a field is set, on the states of jobs and on how many there
  are.

  For each kind of thing that a page shows there is a relation that says so much and no more:
  `Job.Alike`, `JobQueue.Alike`, `Identity.Alike` and `Supply.Alike`.

  Main statements: a delivered page has the structure of its skeleton (`structureOf_text`); and
  for each kind of content, what its skeleton depends on (`skeleton_layout`, `skeleton_jobTable`,
  `skeleton_identityPart`, `skeleton_suppliesContent`).
-/
import Mathlib.Data.List.Forall2
import PrinterConsole.Page.Config
import PrinterConsole.Page.Status
import PrinterConsole.Page.Supplies
import PrinterConsole.Proofs.Fault

namespace PrinterConsole

open PrinterConsole.Web

namespace Page

/-! ## Skeletons

  The `skeleton` of a page is what is left of it without the texts of users: the fixed parts, in
  their order.  It goes through all the ways in which pages are put together. -/

/-- The structural characters of the fixed parts of the page `p`. -/
def skeleton (p : Page) : List Char := p.pieces.flatMap fun piece => structureOf piece.fixedText

/-- **A delivered page has the structure of its `skeleton`**, whatever the `token`. -/
theorem structureOf_text (p : Page) (token : String) : structureOf (p.text token) = p.skeleton :=
  structure_text p token

@[simp] theorem skeleton_append (p q : Page) : (p ++ q).skeleton = p.skeleton ++ q.skeleton :=
  List.flatMap_append

@[simp] theorem skeleton_value (s : String) : (value s).skeleton = [] := rfl

@[simp] theorem skeleton_number (n : Int) : (number n).skeleton = [] := rfl

@[simp] theorem skeleton_shown (v : Json) : (shown v).skeleton = [] := rfl

@[simp] theorem skeleton_link (site : Site) (p : Place) : (link site p).skeleton = [] := rfl

@[simp] theorem skeleton_when (condition : Bool) (p : Page) :
    (when condition p).skeleton = if condition then p.skeleton else [] := by
  cases condition <;> rfl

theorem skeleton_concat (ps : List Page) : (concat ps).skeleton = ps.flatMap skeleton := by
  induction ps with
  | nil => rfl
  | cons p rest ih =>
    show (p ++ concat rest).skeleton = _
    rw [skeleton_append, ih, List.flatMap_cons]

/-- Parts with the same skeletons, one for each item, make pages with the same `skeleton`. -/
theorem skeleton_each {α : Type} {R : α → α → Prop} {part : α → Page}
    (hpart : ∀ a b, R a b → (part a).skeleton = (part b).skeleton) {as bs : List α}
    (h : List.Forall₂ R as bs) : (each as part).skeleton = (each bs part).skeleton := by
  unfold each
  rw [skeleton_concat, skeleton_concat]
  induction h with
  | nil => rfl
  | cons hhead _ ih =>
    rw [List.map_cons, List.map_cons, List.flatMap_cons, List.flatMap_cons, hpart _ _ hhead, ih]

/-! ## The layout

  The frame of a page shows a title, which is a text, and depends otherwise on the place, on the
  banner and on whether the page refreshes. -/

/-- **The texts of the `layout`**, the title and the name of the printer, are not in its
    skeleton. -/
theorem skeleton_layout {s t : Surroundings} {h k : Heading} {content content' : Page}
    (hsite : s.site = t.site) (hsupplies : s.showSupplies = t.showSupplies)
    (hcurrent : h.current = k.current) (hrefresh : h.refresh = k.refresh)
    (hbanner : h.banner = k.banner) (hcontent : content.skeleton = content'.skeleton) :
    (layout s h content).skeleton = (layout t k content').skeleton := by
  have hnavigation : navigationEntry s h = navigationEntry t k := by
    funext entry
    simp only [navigationEntry, hsite, hsupplies, hcurrent]
  have htitle : (titleLine s h).skeleton = (titleLine t k).skeleton := by
    simp only [titleLine, skeleton_append, skeleton_value, skeleton_when, hsite]
  have hsubheader : subheader s h = subheader t k := by
    simp only [subheader, hnavigation, hsite]
  simp only [layout, head, header, skeleton_append, skeleton_when, htitle, hsubheader, hrefresh,
    hbanner, hcontent]

end Page

/-! ## Jobs

  Jobs are alike if they have number, state and mark in common, so that the same rows and buttons
  are shown for them. -/

/-- The jobs `i` and `j` have the same number, state and mark of being canceled. -/
structure Job.Alike (i j : Job) : Prop where
  id_eq : i.id = j.id
  state_eq : i.state = j.state
  isCanceled_eq : i.isCanceled = j.isCanceled

theorem Job.Alike.isActive_eq {i j : Job} (h : i.Alike j) : i.isActive = j.isActive := by
  rw [isActive, isActive, h.state_eq]

theorem Job.Alike.canCancel_eq {i j : Job} (h : i.Alike j) : i.canCancel = j.canCancel := by
  rw [canCancel, canCancel, h.state_eq, h.isCanceled_eq]

/-- Two queues list as many jobs, and they are alike one by one (`Job.Alike`). -/
def JobQueue.Alike (p q : JobQueue) : Prop := List.Forall₂ Job.Alike p.jobs q.jobs

theorem JobQueue.Alike.newestFirst {p q : JobQueue} (h : p.Alike q) :
    List.Forall₂ Job.Alike p.newestFirst q.newestFirst :=
  List.forall₂_reverse_iff.2 h

/-- Alike jobs have one state, so that `Job.isActive` picks them in pairs. -/
theorem forall₂_filter_isActive {js ks : List Job} (h : List.Forall₂ Job.Alike js ks) :
    List.Forall₂ Job.Alike (js.filter Job.isActive) (ks.filter Job.isActive) := by
  induction h with
  | nil => exact .nil
  | cons hhead _ ih =>
    rw [List.filter_cons, List.filter_cons, hhead.isActive_eq]
    split
    · exact .cons hhead ih
    · exact ih

theorem JobQueue.Alike.active {p q : JobQueue} (h : p.Alike q) :
    List.Forall₂ Job.Alike p.active q.active :=
  forall₂_filter_isActive h

/-- Alike jobs have one number, so that a search by number finds both or neither. -/
theorem isSome_find?_eq {js ks : List Job} (h : List.Forall₂ Job.Alike js ks) (id : Int) :
    (js.find? fun j => j.id == id).isSome = (ks.find? fun j => j.id == id).isSome := by
  induction h with
  | nil => rfl
  | cons hhead _ ih =>
    rw [List.find?_cons, List.find?_cons, hhead.id_eq]
    split
    · rfl
    · exact ih

/-- A number is that of a job in both queues or in none: `find?` succeeds in both or fails in
    both. -/
theorem JobQueue.Alike.isSome_find? {p q : JobQueue} (h : p.Alike q) (id : Int) :
    (p.find? id).isSome = (q.find? id).isSome :=
  isSome_find?_eq h id

theorem isEmpty_rows_eq {js ks : List Job} (h : List.Forall₂ Job.Alike js ks) :
    (js.map Job.row).isEmpty = (ks.map Job.row).isEmpty := by
  cases h <;> rfl

namespace Page

theorem skeleton_jobRow (site : Site) {i j : Job} (h : i.Alike j) :
    (jobRow site i.row).skeleton = (jobRow site j.row).skeleton := by
  simp only [jobRow, Job.row, skeleton_append, skeleton_value, skeleton_number, skeleton_link,
    skeleton_when, h.canCancel_eq]

/-- **A table of jobs** (`jobTable`) shows their states in its skeleton, but not their texts. -/
theorem skeleton_jobTable (site : Site) (showCancelAll : Bool) (emptyText : String)
    {js ks : List Job} (h : List.Forall₂ Job.Alike js ks) :
    (jobTable site showCancelAll emptyText (js.map Job.row)).skeleton =
      (jobTable site showCancelAll emptyText (ks.map Job.row)).skeleton := by
  have hrows : (each (js.map Job.row) (jobRow site)).skeleton =
      (each (ks.map Job.row) (jobRow site)).skeleton := by
    have hpart : ∀ i j : Job, i.Alike j →
        (jobRow site i.row).skeleton = (jobRow site j.row).skeleton := fun _ _ => skeleton_jobRow site
    unfold each
    rw [List.map_map, List.map_map]
    exact skeleton_each hpart h
  unfold jobTable
  rw [isEmpty_rows_eq h]
  split
  · rfl
  · simp only [skeleton_append, hrows]

theorem skeleton_allJobs (site : Site) {p q : JobQueue} (h : p.Alike q) :
    (allJobs site p).skeleton = (allJobs site q).skeleton :=
  skeleton_jobTable site true _ h.newestFirst

theorem skeleton_jobsContent (site : Site) {p q : JobQueue} (h : p.Alike q) :
    (jobsContent site p).skeleton = (jobsContent site q).skeleton := by
  simp only [jobsContent, skeleton_append, skeleton_allJobs site h]

theorem skeleton_jobLine (i j : Job) : (jobLine i).skeleton = (jobLine j).skeleton := by
  simp only [jobLine, skeleton_append, skeleton_number, skeleton_value]

/-- The page to cancel a job shows a form exactly if the job is found, and alike queues agree on
    that. -/
theorem skeleton_cancelContent (site : Site) {p q : JobQueue} (h : p.Alike q) (id : Int) :
    (cancelContent site p id).skeleton = (cancelContent site q id).skeleton := by
  have hline : (((p.find? id).map jobLine).getD empty).skeleton =
      (((q.find? id).map jobLine).getD empty).skeleton := by
    have hfound := h.isSome_find? id
    cases hp : p.find? id <;> cases hq : q.find? id <;> rw [hp, hq] at hfound
    case none.some => cases hfound
    case some.none => cases hfound
    case some.some i j => exact skeleton_jobLine i j
  simp only [cancelContent, skeleton_append, skeleton_when, hline]

theorem skeleton_cancelAllContent (site : Site) {p q : JobQueue} (h : p.Alike q) :
    (cancelAllContent site p).skeleton = (cancelAllContent site q).skeleton := by
  simp only [cancelAllContent, skeleton_append, skeleton_when, isEmpty_rows_eq h.active,
    skeleton_jobTable site false _ h.active]

end Page

/-! ## Identities

  Identities are alike if the same of their parts are empty; what is shown depends on no more than
  that. -/

/-- The field `v` is a text or unset. -/
def Json.IsOptionalText (v : Json) : Prop := v = .null ∨ ∃ s, v = .string s

/-- The fields `v` and `w` are texts or unset, and both have something in them or none has. -/
structure Json.SameEmptiness (v w : Json) : Prop where
  isText_left : v.IsOptionalText
  isText_right : w.IsOptionalText
  truthy_eq : v.truthy = w.truthy

/-- Two identities have the same fields set, each in the sense of `Json.SameEmptiness`. -/
structure Identity.Alike (i j : Identity) : Prop where
  dnsSdName : i.dnsSdName.SameEmptiness j.dnsSdName
  location : i.location.SameEmptiness j.location
  geoLocation : i.geoLocation.SameEmptiness j.geoLocation
  organization : i.organization.SameEmptiness j.organization
  orgUnit : i.orgUnit.SameEmptiness j.orgUnit
  name : i.contact.name.SameEmptiness j.contact.name
  email : i.contact.email.SameEmptiness j.contact.email
  telephone : i.contact.telephone.SameEmptiness j.contact.telephone

/-- The `coordinates` of a location that is a text or unset can be read. -/
theorem Identity.exists_coordinates_of_text {geo : Json} (h : geo.IsOptionalText) :
    ∃ place, coordinates geo = .ok place := by
  unfold coordinates
  split
  · exact ⟨_, rfl⟩
  · rename_i hset
    rcases h with rfl | ⟨s, rfl⟩
    · exact absurd rfl hset
    · exact ⟨_, rfl⟩

namespace Page

theorem skeleton_fieldOr (v : Json) : (fieldOr v).skeleton = [] := by
  unfold fieldOr
  split <;> rfl

theorem skeleton_fieldValue (v : Json) : (fieldValue v).skeleton = [] := by
  unfold fieldValue
  split <;> rfl

/-- **An identity on the status page** shows in its skeleton which fields are set
    (`Identity.Alike`). -/
theorem skeleton_identityPart (site : Site) {i j : Identity} (h : i.Alike j)
    (place place' : String × String) :
    (identityPart site i place).skeleton = (identityPart site j place').skeleton := by
  simp only [identityPart, coordinatesLink, furtherField, contactLines, skeleton_append,
    skeleton_when, skeleton_fieldOr, skeleton_shown, skeleton_value, h.geoLocation.truthy_eq,
    h.orgUnit.truthy_eq, h.name.truthy_eq, h.email.truthy_eq, h.telephone.truthy_eq]

/-- The form of an identity (`configContent`) has all its inputs, whatever is in them. -/
theorem skeleton_configContent (site : Site) (i j : Identity) (place place' : String × String) :
    (configContent site i place).skeleton = (configContent site j place').skeleton := by
  simp only [configContent, identityRows, contactRows, input, skeleton_append, skeleton_fieldValue,
    skeleton_shown, skeleton_value]

end Page

/-! ## Supplies -/

/-- The supplies `s` and `t` have the same level and color. -/
structure Supply.Alike (s t : Supply) : Prop where
  level_eq : s.level = t.level
  color_eq : s.color = t.color

namespace Page

/-- The row of a supply is made of its level, its color and its description; the last is a text,
    which leaves no mark in the `skeleton`, and alike supplies share the others. -/
theorem skeleton_supplyRow {s t : Supply} (h : s.Alike t) :
    (supplyRow s).map skeleton = (supplyRow t).map skeleton := by
  have hfilled : s.bar.filled = t.bar.filled := by
    simp only [Supply.Bar.filled, Supply.bar, h.level_eq]
  have hempty : s.bar.empty = t.bar.empty := by
    simp only [Supply.Bar.empty, hfilled]
  unfold supplyRow
  dsimp only
  rw [hfilled, hempty]
  cases t.bar.filled with
  | error e => rfl
  | ok filled =>
    rw [ok_bind, ok_bind]
    cases t.bar.empty with
    | error e => rfl
    | ok rest =>
      refine congrArg Except.ok ?_
      simp only [barPart, skeleton_append, skeleton_value, skeleton_number, skeleton_shown]

/-- Items that `look` the same after they are read make lists that look the same, and are refused
    alike. -/
theorem map_mapM_eq {α β γ : Type} {R : α → α → Prop} {read : α → Except Fault β} {look : β → γ}
    (hread : ∀ a b, R a b → (read a).map look = (read b).map look) {as bs : List α}
    (h : List.Forall₂ R as bs) :
    (as.mapM read).map (List.map look) = (bs.mapM read).map (List.map look) := by
  have hcons : ∀ a rest, ((a :: rest).mapM read).map (List.map look) =
      (do return (← (read a).map look) :: (← (rest.mapM read).map (List.map look))) := by
    intro a rest
    rw [List.mapM_cons]
    cases read a with
    | error e => rfl
    | ok b => cases rest.mapM read <;> rfl
  induction h with
  | nil => rfl
  | cons hhead _ ih => rw [hcons, hcons, hread _ _ hhead, ih]

/-- **The bars of supplies** can be shown for both printers or for none, and their skeleton does not
    show the descriptions (`Supply.Alike`). -/
theorem skeleton_suppliesContent {ss ts : List Supply} (h : List.Forall₂ Supply.Alike ss ts) :
    (suppliesContent ss).map skeleton = (suppliesContent ts).map skeleton := by
  have hrow : ∀ s t : Supply, s.Alike t →
      (supplyRow s).map skeleton = (supplyRow t).map skeleton := fun _ _ => skeleton_supplyRow
  have hrows := map_mapM_eq hrow h
  unfold suppliesContent
  cases hs : ss.mapM supplyRow <;> cases ht : ts.mapM supplyRow <;> rw [hs, ht] at hrows
  case error.error e e' =>
    cases hrows
    rfl
  case error.ok => cases hrows
  case ok.error => cases hrows
  case ok.ok rows rows' =>
    refine congrArg Except.ok ?_
    simp only [skeleton_append, skeleton_concat, List.flatMap_def, Except.ok.inj hrows]

end Page

end PrinterConsole
