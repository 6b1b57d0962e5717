/-
  Which job a submission to the cancel page is about.

  A submission may repeat its fields.  Everywhere else the last text under a name counts, and so
  does the last token here; but the job is the one that the first text under `job-id` names.  So
  the page keeps to the rule of the last text exactly as long as the first and the last text come
  to the same (`SameOutcome`): they name the same job, or neither names one, or both name jobs to
  which canceling does not apply any more.

  The answer to a submission is worked out once (`answer_of_cancelSubmission`) as a function of
  `named?`, the listed job that a text names.  `IsCancelOf` then says of any answer that it is
  about a given job or about none, and `isCancelOf_iff` turns two such statements about one answer
  into `SameOutcome`.  Its core is that canceling one job can be told from canceling another as
  soon as it applies to one of them (`after_cancel_eq_iff`).

  Main statement: `cancel_by_last_iff`.  `not_forall_cancel_by_last` is a submission with two
  jobs.
-/
import PrinterConsole.Proofs.Console.Answers
import PrinterConsole.Proofs.Queue.CancelAll
import PrinterConsole.Proofs.Queue.CancelFinal

namespace PrinterConsole

open PrinterConsole.Web PrinterConsole.Page

namespace JobQueue

/-! ## Jobs named by texts

  A submission names a job by a text.  The number that is read from it counts only if it is that of
  a listed job (`named?`); a text that is no number reads as zero, which is none. -/

/-- The number of the listed job that a `text` names, if it names one; zero, which stands for no
    number, never is one. -/
def named? (q : JobQueue) (text : Option String) : Option Int :=
  let id := Form.jobNumber text
  if id ≠ 0 ∧ (q.find? id).isSome then some id else none

/-- A `text` names a listed job exactly if it reads as that number (`Form.jobNumber`), which is not
    zero, and the queue has a job with it. -/
theorem named?_eq_some_iff {q : JobQueue} {text : Option String} {id : Int} :
    q.named? text = some id ↔ Form.jobNumber text = id ∧ id ≠ 0 ∧ ∃ j, q.find? id = some j := by
  unfold named?
  dsimp only
  constructor
  · intro h
    split at h
    · rename_i hnamed
      obtain rfl := Option.some.inj h
      exact ⟨rfl, hnamed.1, Option.isSome_iff_exists.1 hnamed.2⟩
    · cases h
  · rintro ⟨rfl, hne, hfound⟩
    exact if_pos ⟨hne, Option.isSome_iff_exists.2 hfound⟩

theorem named?_eq_none_iff {q : JobQueue} {text : Option String} :
    q.named? text = none ↔ Form.jobNumber text = 0 ∨ q.find? (Form.jobNumber text) = none := by
  simp only [named?, ite_eq_right_iff, reduceCtorEq, imp_false, not_and_or, not_not,
    Option.not_isSome_iff_eq_none]

/-- Submissions about two jobs, or about none, come to the same: they are about one job, or
    `cancelable` fails of both. -/
def SameOutcome (q : JobQueue) (m n : Option Int) : Prop :=
  m = n ∨ ∃ i j, m = some i ∧ n = some j ∧ q.cancelable i = false ∧ q.cancelable j = false

/-! ## Canceling one job or another

  The queue after a cancellation tells which job was canceled, unless the cancellation did nothing;
  and then it tells nothing. -/

/-- Canceling a job that is there succeeds, and the queue is then the one `after` the operation;
    only the `flag` depends on the job. -/
theorem exists_cancel {q : JobQueue} {id : Int} {j : Job} (now : Instant)
    (h : q.find? id = some j) : ∃ flag, q.cancel now id = .ok (flag, q.after now (.cancel id)) := by
  have hrun : ∃ flag queue, q.cancel now id = .ok (flag, queue) := by
    rw [cancel, get_of_find? h]
    cases canceled? now j with
    | some i => exact ⟨_, _, rfl⟩
    | none => exact ⟨_, _, rfl⟩
  obtain ⟨flag, queue, hcancel⟩ := hrun
  refine ⟨flag, ?_⟩
  simp only [after, run, hcancel, Except.map]

/-- Canceling does nothing to a job to which it does not apply (`cancelable`), and does not purge
    either. -/
theorem after_cancel_of_not_cancelable {q : JobQueue} {id : Int} (now : Instant)
    (h : q.cancelable id = false) : q.after now (.cancel id) = q := by
  cases hj : q.find? id with
  | none => simp [after, run_of_unknown now (rfl : Op.id? (.cancel id) = some id) hj]
  | some j =>
    have hnone : canceled? now j = none := by
      rw [canceled?_eq_none_iff]
      simpa [cancelable, hj] using h
    simp [after, run, cancel, get_of_find? hj, bind, Except.bind, pure, Except.pure, hnone,
      Except.map]

/-- Canceling a job to which it applies can be told from canceling another one: after the first the
    job `i` is not `cancelable` or is gone, after the second it is as before. -/
theorem after_cancel_ne {q : JobQueue} (hq : q.WellFormed) {i j : Int} (now : Instant)
    (hi : q.cancelable i = true) (hij : i ≠ j) :
    q.after now (.cancel i) ≠ q.after now (.cancel j) := by
  intro hsame
  obtain ⟨x, hx, hcan⟩ := (Option.any_eq_true _ _).1 hi
  obtain ⟨hxm, hxi⟩ := (find?_eq_some_iff hq).1 hx
  -- canceling the other one leaves the job as it is
  have hother : Op.effect now (.cancel j) x = x :=
    effect_of_ne now (rfl : Op.id? (.cancel j) = some j) (hxi ▸ hij)
  have hkept : (q.after now (.cancel j)).find? i = some x := by
    have hactive := Job.isActive_of_canCancel hcan
    rw [← hother] at hactive
    rw [find?_after_of_active hq hx hactive, hother]
  rw [← hsame] at hkept
  obtain ⟨y, hy, hchanged⟩ := find?_of_find?_after hq (hxi ▸ (hq.numbered x hxm).2) hkept
  obtain rfl : x = y := Option.some.inj (hx.symm.trans hy)
  -- but canceling it makes it one that cannot be canceled
  rw [effect_of_id? now (rfl : Op.id? (.cancel i) = some i) hxi] at hchanged
  have hafter := canCancel_canceled now x
  rw [show canceled now x = x from hchanged, hcan] at hafter
  cases hafter

/-- **Canceling two different jobs comes to the same queue** exactly if it applies to neither
    (`after_cancel_ne`, from both sides). -/
theorem after_cancel_eq_iff {q : JobQueue} (hq : q.WellFormed) {i j : Int} (now : Instant)
    (hij : i ≠ j) : q.after now (.cancel i) = q.after now (.cancel j) ↔
      q.cancelable i = false ∧ q.cancelable j = false := by
  constructor
  · intro hsame
    constructor
    · cases hi : q.cancelable i with
      | false => rfl
      | true => exact absurd hsame (after_cancel_ne hq now hi hij)
    · cases hj : q.cancelable j with
      | false => rfl
      | true => exact absurd hsame.symm (after_cancel_ne hq now hj hij.symm)
  · rintro ⟨hi, hj⟩
    rw [after_cancel_of_not_cancelable now hi, after_cancel_of_not_cancelable now hj]

end JobQueue

namespace Console

/-! ## Answers to a submission about a job

  There are two kinds of answer: a redirect with the job canceled, or the page with an error and the
  queue as it was.  Which one is given depends on the job alone that is named (`IsCancelOf`). -/

/-- An answer to a submission to the cancel page that is about the listed job `named`, or about
    none: it leads on to the jobs, with the job canceled, or it is the page again, which tells that
    the number is invalid, with the queue as it was. -/
def IsCancelOf (c : Console) (now : Instant) (named : Option Int) (answered : Response × Console) :
    Prop :=
  match named with
  | some id =>
    answered.1 = .redirect 302 (c.site.link .jobs) ∧
      answered.2.printer.queue = c.printer.queue.after now (.cancel id)
  | none =>
    (∃ body, answered.1 = .page 200 body ∧ TellsError Problem.badJobIdMessage body) ∧
      answered.2.printer.queue = c.printer.queue

/-- An answer is about one job as well as about another, exactly if the two come to the same.  A
    redirection cannot be a page, so about a job and about none at once is excluded by the answer
    itself; about two jobs it is `after_cancel_eq_iff`. -/
theorem isCancelOf_iff {c : Console} (hq : c.printer.queue.WellFormed) {now : Instant}
    {m n : Option Int} {answered : Response × Console} (h : c.IsCancelOf now m answered) :
    c.IsCancelOf now n answered ↔ c.printer.queue.SameOutcome m n := by
  cases m with
  | none =>
    obtain ⟨⟨body, hbody, -⟩, -⟩ := id h
    cases n with
    | none => exact iff_of_true h (.inl rfl)
    | some j =>
      refine iff_of_false (fun hj => ?_) (by simp [JobQueue.SameOutcome])
      rw [hj.1] at hbody
      cases hbody
  | some i =>
    obtain ⟨hredirect, hqueue⟩ := id h
    cases n with
    | none =>
      refine iff_of_false ?_ (by simp [JobQueue.SameOutcome])
      rintro ⟨⟨body, hbody, -⟩, -⟩
      rw [hredirect] at hbody
      cases hbody
    | some j =>
      have hiff : c.IsCancelOf now (some j) answered ↔
          c.printer.queue.after now (.cancel i) = c.printer.queue.after now (.cancel j) :=
        ⟨fun hj => hqueue.symm.trans hj.2, fun hsame => ⟨hredirect, hqueue.trans hsame⟩⟩
      rw [hiff]
      by_cases hij : i = j
      · subst hij
        exact iff_of_true rfl (.inl rfl)
      · -- with two ids the queues agree only if neither cancellation does anything
        rw [JobQueue.after_cancel_eq_iff hq now hij]
        simp [JobQueue.SameOutcome, hij]

/-- The cancel page can always be shown, since nothing on it has to be read. -/
theorem canShow_cancel (c : Console) : c.CanShow .cancel := ⟨_, rfl⟩

/-- Canceling the job that a submission names first, by what it names: the queue `after` it, or one
    of two problems, which have the same message. -/
theorem cancelNamed_eq (p : Printer) (now : Instant) (fields : List (String × String)) :
    match p.queue.named? (fields.lookup jobField) with
    | some id => cancelNamed p now fields =
        .ok { p with queue := p.queue.after now (.cancel id) }
    | none => ∃ problem, problem.message = Problem.badJobIdMessage ∧
        cancelNamed p now fields = .error (.problem problem) := by
  unfold cancelNamed
  dsimp only
  split
  · rename_i id hnamed
    obtain ⟨rfl, hne, j, hj⟩ := JobQueue.named?_eq_some_iff.1 hnamed
    obtain ⟨flag, hcancel⟩ := JobQueue.exists_cancel now hj
    rw [if_neg hne, hcancel]
    rfl
  · rename_i hnamed
    rcases JobQueue.named?_eq_none_iff.1 hnamed with hzero | hnone
    · rw [if_pos hzero]
      exact ⟨_, rfl, rfl⟩
    · split
      · exact ⟨_, rfl, rfl⟩
      · rw [JobQueue.cancel_eq_error hnone]
        exact ⟨_, rfl, rfl⟩

/-- A submission to the cancel page with the token of its session (`IsCarriedBy`), which can be
    compared. -/
structure CancelSubmission (c : Console) (r : Request) : Prop where
  post : r.method = .post
  path : r.target.path = c.site.pathOf .cancel
  carried : c.session.IsCarriedBy r.fields
  comparable : ∀ t ∈ c.session.token, Session.isComparable t = true

/-- **The answer to a submission to the cancel page**: it leads on to the jobs, with the job
    canceled that the submission `named?` first, or it is the page again with a message, and nothing
    else.  Everything about the answers below is read off this. -/
theorem answer_of_cancelSubmission {c : Console} {now : Instant} {fresh : String} {r : Request}
    (h : c.CancelSubmission r) :
    match c.printer.queue.named? (r.fields.lookup jobField) with
    | some id => c.answer now fresh r = (.redirect 302 (c.site.link .jobs),
        { c with printer :=
          { c.printer with queue := c.printer.queue.after now (.cancel id) } })
    | none => c.answer now fresh r =
        c.view fresh .cancel (some ⟨Problem.badJobIdMessage, true⟩)
          (Form.jobNumber (r.fields.lookup jobField)) := by
  have haccepted : acceptedForm c.session r.fields = .ok (Form.ofPairs r.fields) :=
    acceptedForm_eq_ok_iff.2 ⟨rfl, h.carried, h.comparable⟩
  have hnamed := cancelNamed_eq c.printer now r.fields
  rw [answer_of_post h.post h.path rfl]
  unfold submit apply
  cases hid : c.printer.queue.named? (r.fields.lookup jobField) with
  | some id =>
    rw [hid] at hnamed
    simp only [haccepted, hnamed]
    rfl
  | none =>
    rw [hid] at hnamed
    obtain ⟨problem, hmessage, hcancel⟩ := hnamed
    simp only [haccepted, hcancel, hmessage]

/-- **The answer to a submission to the cancel page is about the job that it names first**:
    `answer_of_cancelSubmission` in terms of `IsCancelOf`. -/
theorem isCancelOf_first {c : Console} {now : Instant} {fresh : String} {r : Request}
    (h : c.CancelSubmission r) :
    c.IsCancelOf now (c.printer.queue.named? (r.fields.lookup jobField))
      (c.answer now fresh r) := by
  have hanswer := @answer_of_cancelSubmission c now fresh r h
  unfold IsCancelOf
  cases hid : c.printer.queue.named? (r.fields.lookup jobField) with
  | some id =>
    rw [hid] at hanswer
    rw [hanswer]
    exact ⟨rfl, rfl⟩
  | none =>
    rw [hid] at hanswer
    rw [hanswer]
    exact ⟨(view_tells_iff c fresh .cancel _ _).2 c.canShow_cancel, by simp⟩

/-! ## The rule of the last text

  The page reads the first text under a name and the rule asks for the last.  So it keeps to the
  rule if and only if both texts lead to the same answer, and for two submissions that is said of
  both. -/

def SameKind : Response → Response → Prop
  | .page m _, .page n _ => m = n
  | .redirect m location, .redirect n location' => m = n ∧ location = location'
  | .notTaken, .notTaken => True
  | _, _ => False

/-- Answers of the same kind (`SameKind`) that leave the same queue are about the same.  The page of
    the second kind always leaves the queue as it was, so the kind alone tells a job from none. -/
theorem sameKind_iff {c : Console} {now : Instant} {m n : Option Int} {a b : Response × Console}
    (ha : c.IsCancelOf now m a) (hb : c.IsCancelOf now n b) :
    (a.2.printer.queue = b.2.printer.queue ∧ SameKind a.1 b.1) ↔ c.IsCancelOf now n a := by
  cases n with
  | some j =>
    obtain ⟨hredirect, hqueue⟩ := hb
    constructor
    · rintro ⟨hsame, hkind⟩
      rw [hredirect] at hkind
      refine ⟨?_, hsame.trans hqueue⟩
      cases hanswer : a.1 with
      | redirect status location =>
        rw [hanswer] at hkind
        rw [hkind.1, hkind.2]
      | page | notTaken => rw [hanswer] at hkind; exact hkind.elim
    · rintro ⟨hredirect', hqueue'⟩
      rw [hredirect, hredirect', hqueue, hqueue']
      exact ⟨rfl, rfl, rfl⟩
  | none =>
    -- two pages are of one kind, and no page is of the kind of a redirect
    obtain ⟨⟨body, hbody, htells⟩, hqueue⟩ := hb
    constructor
    · rintro ⟨hsame, hkind⟩
      cases m with
      | none => exact ha
      | some i =>
        rw [hbody, ha.1] at hkind
        exact hkind.elim
    · rintro ⟨⟨body', hbody', -⟩, hqueue'⟩
      rw [hbody, hbody', hqueue, hqueue']
      exact ⟨rfl, rfl⟩

/-- A submission `r'` whose form has the same texts carries the token too. -/
theorem CancelSubmission.congr {c : Console} {r r' : Request} (h : c.CancelSubmission r)
    (hpost : r'.method = .post) (hpath : r'.target.path = c.site.pathOf .cancel)
    (hform : ∀ name, (Form.ofPairs r'.fields).value? name = (Form.ofPairs r.fields).value? name) :
    c.CancelSubmission r' where
  post := hpost
  path := hpath
  carried := by
    obtain ⟨t, htoken, hne, hsent⟩ := h.carried
    refine ⟨t, htoken, hne, ?_⟩
    rw [← Form.value?_ofPairs, hform, Form.value?_ofPairs, hsent]
  comparable := h.comparable

/-- **When the cancel page keeps to the rule of the last text.**  For every queue that some run
    leads to and every submission with the token of its session, whatever fields it repeats: the
    answer is about the listed job that the first text under `job-id` names, or about none.  So it
    is about the one that the form names, which has the last text, exactly if both come to the same;
    and two submissions with the same form have the same effect and the same kind of answer, exactly
    if what they name first comes to the same. -/
theorem cancel_by_last_iff {c : Console} {now : Instant} {fresh : String} {r : Request}
    (hq : c.printer.queue.Reachable) (h : c.CancelSubmission r) :
    let q := c.printer.queue
    let first (r : Request) := q.named? (r.fields.lookup jobField)
    let last := q.named? ((Form.ofPairs r.fields).value? jobField)
    let answered := c.answer now fresh r
    c.IsCancelOf now (first r) answered ∧
      (c.IsCancelOf now last answered ↔ q.SameOutcome (first r) last) ∧
      ∀ r' : Request, r'.method = .post → r'.target.path = c.site.pathOf .cancel →
        (∀ name, (Form.ofPairs r'.fields).value? name = (Form.ofPairs r.fields).value? name) →
        let other := c.answer now fresh r'
        (other.2.printer.queue = answered.2.printer.queue ∧ SameKind other.1 answered.1 ↔
          q.SameOutcome (first r') (first r)) := by
  intro q first last answered
  have hanswered : c.IsCancelOf now (first r) answered := isCancelOf_first h
  refine ⟨hanswered, isCancelOf_iff hq.wellFormed hanswered, ?_⟩
  intro r' hpost hpath hform other
  have hother : c.IsCancelOf now (first r') other := isCancelOf_first (h.congr hpost hpath hform)
  rw [sameKind_iff hother hanswered]
  exact isCancelOf_iff hq.wellFormed hother

/-- A submission that repeats its job number with a blank, and its token. -/
theorem cancel_by_last_iff_repeated_number :
    let queue := ({} : JobQueue).afterAll
      [(⟨0⟩, .create "a" "x" false), (⟨0⟩, .create "b" "x" false)]
    let c : Console :=
      ⟨{}, { defaultPrinter "Labels" 100 with queue := queue }, ⟨some "ab"⟩⟩
    let r : Request := ⟨.post, { path := "/cancel" },
      [("job-id", " 2"), ("session", "x"), ("session", "ab"), ("job-id", "2")]⟩
    (c.printer.queue.Reachable ∧ c.CancelSubmission r) ∧
      c.IsCancelOf ⟨5⟩ (some 2) (c.answer ⟨5⟩ "new" r) := by
  intro queue c r
  have hq : c.printer.queue.Reachable := ⟨100, _, rfl⟩
  have hr : c.CancelSubmission r :=
    ⟨rfl, by decide, ⟨"ab", rfl, by decide, by decide⟩, by decide⟩
  have hanswer := @cancel_by_last_iff c ⟨5⟩ "new" r hq hr
  exact ⟨⟨hq, hr⟩, hanswer.2.1.2 (.inl (by decide))⟩

/-- The cancel page does not always keep to the rule of the last text: of two jobs the first one is
    canceled. -/
theorem not_forall_cancel_by_last :
    ¬ ∀ (c : Console) (now : Instant) (fresh : String) (r : Request),
      c.printer.queue.Reachable → c.CancelSubmission r →
        c.IsCancelOf now (c.printer.queue.named? ((Form.ofPairs r.fields).value? jobField))
          (c.answer now fresh r) := by
  intro h
  -- then the first and the last text would come to the same in every submission
  have hcame (c : Console) (now : Instant) (fresh : String) (r : Request)
      (hq : c.printer.queue.Reachable) (hr : c.CancelSubmission r) :
      c.printer.queue.SameOutcome (c.printer.queue.named? (r.fields.lookup jobField))
        (c.printer.queue.named? ((Form.ofPairs r.fields).value? jobField)) :=
    (isCancelOf_iff hq.wellFormed (isCancelOf_first hr)).1 (h c now fresh r hq hr)
  let queue := ({} : JobQueue).afterAll
    [(⟨0⟩, .create "a" "x" false), (⟨0⟩, .create "b" "x" false)]
  let c : Console := ⟨{}, { defaultPrinter "Labels" 100 with queue := queue }, ⟨some "ab"⟩⟩
  let r : Request :=
    ⟨.post, { path := "/cancel" }, [("session", "ab"), ("job-id", "1"), ("job-id", "2")]⟩
  have hq : c.printer.queue.Reachable := ⟨100, _, rfl⟩
  have hr : c.CancelSubmission r :=
    ⟨rfl, by decide, ⟨"ab", rfl, by decide, by decide⟩, by decide⟩
  have hfirst : c.printer.queue.named? (r.fields.lookup jobField) = some 1 := by decide
  have hlast : c.printer.queue.named? ((Form.ofPairs r.fields).value? jobField) = some 2 := by
    decide
  have hsame := hcame c ⟨5⟩ "new" r hq hr
  rw [hfirst, hlast] at hsame
  rcases hsame with heq | ⟨i, j, hi, -, hcancelable, -⟩
  · exact absurd heq (by decide)
  · obtain rfl : 1 = i := Option.some.inj hi
    exact absurd hcancelable (by decide)

end Console

end PrinterConsole
