/-
  The two outcomes of a submission to the cancel page.

  A submission that repeats no field names a listed job exactly if it has a job number, and that
  is, without the blanks around it, the literal of the number of a listed job (`NamesListed`).
  Numbers of listed jobs are positive, so the zero that stands for no number is never one of them.

  What a text names is known from `Form.Names`, and what the answer is about from
  `answer_of_cancelSubmission`; here the two are brought together by `named?_lookup_iff`.  Which
  literals a number has is asked once more for the decimal text itself, since a number of more
  than `maxDigits` digits has none (`names_listed_iff`).

  Main statement: `cancel_outcomes`.
-/
import PrinterConsole.Proofs.Console.CancelPage
import PrinterConsole.Proofs.Form.WholeLiteral
import PrinterConsole.Proofs.Queue.Retention

namespace PrinterConsole

open PrinterConsole.Web PrinterConsole.Page

namespace JobQueue

/-! ## Listed jobs

  Listed jobs have positive numbers, no greater than the count of jobs so far, and the text of such
  a number names it as long as it is short enough. -/

/-- A text names a listed job exactly if it is a literal of its number, in the sense of
    `Form.Names`. -/
theorem named?_eq_some_iff_names {q : JobQueue} (hq : q.WellFormed) {text : Option String}
    {id : Int} :
    q.named? text = some id ↔
      0 < id ∧ (∃ t, text = some t ∧ Form.Names t id) ∧ ∃ j ∈ q.jobs, j.id = id := by
  rw [named?_eq_some_iff]
  constructor
  · rintro ⟨hnumber, hne, j, hj⟩
    obtain ⟨hpos, htext⟩ := (Form.jobNumber_eq_iff hne).1 hnumber
    obtain ⟨hmem, hid⟩ := (find?_eq_some_iff hq).1 hj
    exact ⟨hpos, htext, j, hmem, hid⟩
  · rintro ⟨hpos, htext, j, hmem, hid⟩
    have hne : id ≠ 0 := by omega
    exact ⟨(Form.jobNumber_eq_iff hne).2 ⟨hpos, htext⟩, hne, j, (find?_eq_some_iff hq).2 ⟨hmem, hid⟩⟩

/-- **The decimal text of the number of a listed job names it** exactly if it is not too long for
    `maxDigits`. -/
theorem names_listed_iff {q : JobQueue} (hq : q.WellFormed) {j : Job} (hj : j ∈ q.jobs) :
    Form.Names (Number.intText j.id) j.id ↔ j.id < 10 ^ Number.maxDigits := by
  have hpos := (hq.numbered j hj).1
  obtain ⟨n, hn⟩ := Int.eq_ofNat_of_zero_le (show 0 ≤ j.id by omega)
  rw [hn, Number.intText_natCast, Form.names_natText_iff]
  exact_mod_cast Iff.rfl

/-- The number of a listed job is at most the number of jobs that were added: numbers are given out
    one by one from 1 (`nextId_afterAll`). -/
theorem id_le_creations {limit : Int} {es : List (Instant × Op)} {j : Job}
    (hj : j ∈ (({ limit := limit } : JobQueue).afterAll es).jobs) : j.id ≤ creations es := by
  have hempty := wellFormed_empty limit
  have hnumbered := ((hempty.afterAll es).numbered j hj).2
  have hnext : (({ limit := limit } : JobQueue).afterAll es).nextId = 1 + creations es :=
    nextId_afterAll hempty es
  omega

end JobQueue

namespace Console

/-! ## Submissions that repeat no field

  Where no field is repeated, the first text under a name is the only one. -/

/-- A submission has a text under `jobField` that names a listed job. -/
def NamesListed (q : JobQueue) (fields : List (String × String)) (id : Int) : Prop :=
  0 < id ∧ (∃ t, (jobField, t) ∈ fields ∧ Form.Names t id) ∧ ∃ j ∈ q.jobs, j.id = id

/-- If no field is repeated, the first text of a field is the only one, so `List.lookup` finds it
    wherever it stands. -/
theorem lookup_eq_some_iff_mem {fields : List (String × String)}
    (hkeys : (fields.map Prod.fst).Nodup) {name t : String} :
    fields.lookup name = some t ↔ (name, t) ∈ fields := by
  rw [List.lookup_eq_some_iff]
  constructor
  · rintro ⟨front, back, rfl, -⟩
    exact List.mem_append_right _ List.mem_cons_self
  · intro hmem
    obtain ⟨front, back, rfl⟩ := List.append_of_mem hmem
    refine ⟨front, back, rfl, fun p hp => ?_⟩
    rw [List.map_append, List.nodup_append] at hkeys
    exact bne_iff_ne.2
      (hkeys.2.2 _ (List.mem_map_of_mem hp) _ (List.mem_map_of_mem List.mem_cons_self)).symm

/-- What the queue takes the submission to name, `named?` of the first text, is what `NamesListed`
    says, if no field is repeated. -/
theorem named?_lookup_iff {q : JobQueue} (hq : q.WellFormed) {fields : List (String × String)}
    (hkeys : (fields.map Prod.fst).Nodup) {id : Int} :
    q.named? (fields.lookup jobField) = some id ↔ NamesListed q fields id := by
  rw [JobQueue.named?_eq_some_iff_names hq]
  refine and_congr_right fun _ => and_congr_left fun _ => exists_congr fun t => ?_
  rw [lookup_eq_some_iff_mem hkeys]

/-! ## The outcomes -/

/-- **A submission to the cancel page has two outcomes.** For every queue that some run leads to and
    every submission with the token of its session that repeats no field: if it names a listed job
    (`JobQueue.named?`), canceling that job succeeds, the queue becomes the one this leads to,
    nothing else changes, and the answer leads on to the jobs.  In every other case the answer is
    the cancel page again, which tells that the number is invalid, and the printer is left as it
    was.  The decimal text of the number of a listed job names it, exactly if it has no more digits
    than are converted; and the number is at most the number of jobs that were added. -/
theorem cancel_outcomes {c : Console} {now : Instant} {fresh : String} {r : Request}
    (hq : c.printer.queue.Reachable) (h : c.CancelSubmission r)
    (hkeys : (r.fields.map Prod.fst).Nodup) :
    let q := c.printer.queue
    (∀ id, NamesListed q r.fields id → ∃ flag queue, q.cancel now id = .ok (flag, queue) ∧
      c.answer now fresh r = (.redirect 302 (c.site.link .jobs),
        { c with printer := { c.printer with queue := queue } })) ∧
    ((¬ ∃ id, NamesListed q r.fields id) →
      c.answer now fresh r =
        c.view fresh .cancel (some ⟨"Invalid Job ID.", true⟩)
          (Form.jobNumber (r.fields.lookup jobField)) ∧
      (∃ body, (c.answer now fresh r).1 = .page 200 body ∧ TellsError "Invalid Job ID." body) ∧
      (c.answer now fresh r).2.printer = c.printer) ∧
    (∀ j ∈ q.jobs, 0 < j.id ∧
      (Form.Names (Number.intText j.id) j.id ↔ j.id < 10 ^ Number.maxDigits)) ∧
    ∀ (limit : Int) (es : List (Instant × JobQueue.Op)),
      ({ limit := limit } : JobQueue).afterAll es = q →
        ∀ j ∈ q.jobs, j.id ≤ JobQueue.creations es := by
  intro q
  have hwell : q.WellFormed := hq.wellFormed
  have hanswer := @answer_of_cancelSubmission c now fresh r h
  refine ⟨?_, ?_, ?_, ?_⟩
  · intro id hlisted
    have hnamed := (named?_lookup_iff hwell hkeys).2 hlisted
    -- a listed job is found by its id, so the queue does not refuse to cancel it
    obtain ⟨-, -, j, hj⟩ := JobQueue.named?_eq_some_iff.1 hnamed
    obtain ⟨flag, hcancel⟩ := JobQueue.exists_cancel now hj
    rw [hnamed] at hanswer
    exact ⟨flag, _, hcancel, hanswer⟩
  · intro hnot
    have hnamed : q.named? (r.fields.lookup jobField) = none := by
      rw [Option.eq_none_iff_forall_ne_some]
      exact fun id hid => hnot ⟨id, (named?_lookup_iff hwell hkeys).1 hid⟩
    rw [hnamed] at hanswer
    refine ⟨hanswer, ?_, ?_⟩
    · rw [hanswer]
      -- the cancel page can always be shown, hence the banner is on it
      exact (view_tells_iff c fresh .cancel _ _).2 c.canShow_cancel
    · rw [hanswer, printer_view]
  · exact fun j hj => ⟨(hwell.numbered j hj).1, JobQueue.names_listed_iff hwell hj⟩
  · intro limit es heq j hj
    rw [← heq] at hj
    exact JobQueue.id_le_creations hj

/-- Digits of another script, a sign, an underscore and blanks name the second job. -/
theorem cancel_outcomes_of_grouped_digits :
    let queue := ({} : JobQueue).afterAll
      [(⟨0⟩, .create "a" "x" false), (⟨0⟩, .create "b" "x" false)]
    let c : Console :=
      ⟨{}, { defaultPrinter "Labels" 100 with queue := queue }, ⟨some "ab"⟩⟩
    let r : Request := ⟨.post, { path := "/cancel" },
      [("session", "ab"), ("job-id", " +\u0660_\u0662\t")]⟩
    (c.printer.queue.Reachable ∧ c.CancelSubmission r ∧ (r.fields.map Prod.fst).Nodup) ∧
      ∃ flag queue', queue.cancel ⟨5⟩ 2 = .ok (flag, queue') ∧
        c.answer ⟨5⟩ "new" r = (.redirect 302 (c.site.link .jobs),
          { c with printer := { c.printer with queue := queue' } }) := by
  intro queue c r
  have hq : c.printer.queue.Reachable := ⟨100, _, rfl⟩
  have hr : c.CancelSubmission r :=
    ⟨rfl, by decide, ⟨"ab", rfl, by decide, by decide⟩, by decide⟩
  have hkeys : (r.fields.map Prod.fst).Nodup := by decide
  have htrim : Text.trim (" +\u0660_\u0662\t").toList = '+' :: (['\u0660'] ++ ['_', '\u0662']) := by
    decide
  have hnames : Form.Names " +\u0660_\u0662\t" 2 := by
    refine ⟨?_, by decide⟩
    rw [htrim]
    exact .plus (.group (.one (d := 0) (by decide)) (d := 2) (by decide))
  have hlisted : NamesListed c.printer.queue r.fields 2 :=
    ⟨by decide, ⟨_, List.mem_cons_of_mem _ List.mem_cons_self, hnames⟩, by decide⟩
  exact ⟨⟨hq, hr, hkeys⟩, (@cancel_outcomes c ⟨5⟩ "new" r hq hr hkeys).1 2 hlisted⟩

end Console

end PrinterConsole
