/-
  How long a cancel lasts.

  A cancel leaves one of two traces.  A running job is marked, and the mark stays for good:
  whatever the printer does with the job, it ends as canceled (`Job.Marked`).  A waiting job ends
  as canceled without a mark (`Job.Withdrawn`), and nothing then stops a late start or a late end
  of that job from taking it up again (`Op.TakesUp`).

  So there are two invariants along a run, one for each trace.  `Marked` is kept by every step
  (`marked_effect`), `Withdrawn` by every step that does not take the job up (`withdrawn_effect`),
  and a step that does take it up breaks it at once (`taken_up`).  That a waiting job is never
  marked (`unmarked_of_waiting`) is what makes the two traces exclude each other.

  Main statements: a cancel lasts exactly if it left a mark or no later operation takes the job up
  again (`cancel_lasts_iff`); `not_cancel_lasts` is the shortest run in which it does not last.
-/
import PrinterConsole.Proofs.Queue.Step

namespace PrinterConsole

namespace Job

/-- The job shows that it was canceled: it has not ended in another way, and it runs only marked
    (`isCanceled`). -/
def StaysCanceled (j : Job) : Prop :=
  j.state ≠ .completed ∧ j.state ≠ .aborted ∧ (j.state.isRunning = true → j.isCanceled = true)

instance (j : Job) : Decidable j.StaysCanceled :=
  inferInstanceAs (Decidable (_ ∧ _ ∧ (_ → _)))

/-- Canceled while it ran: the mark `isCanceled` is set, and it runs on or has ended as canceled. -/
def Marked (j : Job) : Prop :=
  j.isCanceled = true ∧ (j.state = .processing ∨ j.state = .stopped ∨ j.state = .canceled)

/-- Canceled before it ran: it has ended as canceled, and `isCanceled` is not set. -/
def Withdrawn (j : Job) : Prop := j.isCanceled = false ∧ j.state = .canceled

theorem Marked.staysCanceled {j : Job} (h : j.Marked) : j.StaysCanceled := by
  obtain ⟨hm, hs | hs | hs⟩ := h <;> simp [StaysCanceled, hs, hm]

theorem Withdrawn.staysCanceled {j : Job} (h : j.Withdrawn) : j.StaysCanceled := by
  simp [StaysCanceled, h.2, JobState.isRunning]

end Job

namespace JobQueue

namespace Op

/-- If the operation ends a job, it names a way to end (`JobState.isTerminal`). -/
def EndsProperly : Op → Prop
  | .finish _ state => state.isTerminal = true
  | _ => True

/-- The operation begins with the job of the number `id`, or ends it otherwise than as canceled. -/
def TakesUp (id : Int) : Op → Prop
  | .start i => i = id
  | .finish i state => i = id ∧ state ≠ .canceled
  | _ => False

end Op

/-- A run whose operations end jobs properly (`Op.EndsProperly`) leads from an empty queue to the
    queue. -/
def ReachableProperly (q : JobQueue) : Prop :=
  ∃ (limit : Int) (es : List (Instant × Op)),
    (∀ e ∈ es, e.2.EndsProperly) ∧ ({ limit := limit } : JobQueue).afterAll es = q

theorem ReachableProperly.reachable {q : JobQueue} (h : q.ReachableProperly) : q.Reachable := by
  obtain ⟨limit, es, _, hq⟩ := h
  exact ⟨limit, es, hq⟩

/-! ## One job through a step

  A job that is listed after a step was listed before, if its number is no new one.  So what holds
  of one job is carried along a run by what a step does to it (`Op.effect`), and a job that is gone
  does not come back. -/

/-- A job with a number that was given out before is a job that was there, changed by the operation
    (`Op.effect`). -/
theorem find?_of_find?_after {q : JobQueue} (hq : q.WellFormed) {now : Instant} {op : Op} {id : Int}
    (hid : id < q.nextId) {j : Job} (h : (q.after now op).find? id = some j) :
    ∃ i, q.find? id = some i ∧ op.effect now i = j := by
  obtain ⟨hj, rfl⟩ := (find?_eq_some_iff (hq.after now op)).mp h
  rcases mem_after hq hj with ⟨i, hi, rfl⟩ | hadd
  · exact ⟨i, (find?_eq_some_iff hq).mpr ⟨hi, (id_effect now op i).symm⟩, rfl⟩
  · have := (mem_added hadd).1
    omega

theorem nextId_le_after {q : JobQueue} (hq : q.WellFormed) (now : Instant) (op : Op) :
    q.nextId ≤ (q.after now op).nextId := by
  rw [after_eq hq, nextId_purge]
  show q.nextId ≤ q.nextId + _
  omega

/-- **What every step keeps of a job, every run keeps of the job of a number** that was given out
    before, as long as it is listed.  The step is told of `Op.effect`, so that no purge enters
    it. -/
theorem forall_find?_afterAll {P : Job → Prop} {q : JobQueue} (hq : q.WellFormed) {id : Int}
    (hid : id < q.nextId) {es : List (Instant × Op)}
    (hstep : ∀ e ∈ es, ∀ j, P j → P (e.2.effect e.1 j)) (h : ∀ j, q.find? id = some j → P j) :
    ∀ j, (q.afterAll es).find? id = some j → P j := by
  induction es generalizing q with
  | nil => exact h
  | cons e es ih =>
    refine ih (hq.after e.1 e.2) (Int.lt_of_lt_of_le hid (nextId_le_after hq e.1 e.2))
      (fun e' he' => hstep e' (List.mem_cons_of_mem e he')) fun j hj => ?_
    obtain ⟨i, hi, rfl⟩ := find?_of_find?_after hq hid hj
    exact hstep e List.mem_cons_self i (h i hi)

/-- Where an operation ends no job, no purge takes one away either: `find?` gives the job as
    `Op.effect` leaves it. -/
theorem find?_after_of_no_end {q : JobQueue} (hq : q.WellFormed) {now : Instant} {op : Op}
    {id : Int} (hact : ∀ j ∈ q.jobs, j.isActive = true → (op.effect now j).isActive = true)
    {j : Job} (h : q.find? id = some j) :
    (q.after now op).find? id = some (op.effect now j) := by
  obtain ⟨hj, rfl⟩ := (find?_eq_some_iff hq).mp h
  have hpurge : (q.changed now op).purge = q.changed now op := by
    apply purge_eq_self
    rw [ended_changed]
    exact Nat.le_trans (length_ended_map_le hact) hq.bounded
  rw [find?_eq_some_iff (hq.after now op), after_eq hq, hpurge]
  exact ⟨mem_changed.mpr (.inl ⟨j, hj, rfl⟩), id_effect now op j⟩

/-- **An operation about a job `j` that has ended takes nothing away**: no other job changes, and
    the one that does had ended already, so there is nothing to purge. -/
theorem find?_after_of_ended {q : JobQueue} (hq : q.WellFormed) {now : Instant} {op : Op} {id : Int}
    (hid : op.id? = some id) {j : Job} (hj : q.find? id = some j) (hend : j.isActive = false) :
    (q.after now op).find? id = some (op.change now j) := by
  obtain ⟨hjm, hjid⟩ := (find?_eq_some_iff hq).mp hj
  have hact : ∀ k ∈ q.jobs, k.isActive = true → (op.effect now k).isActive = true := by
    intro k hk ha
    by_cases hki : k.id = id
    · obtain rfl := eq_of_id_eq hq.ascending hk hjm (hki.trans hjid.symm)
      rw [hend] at ha
      cases ha
    · rwa [effect_of_ne now hid hki]
  rw [← effect_of_id? now hid hjid]
  exact find?_after_of_no_end hq hact hj

/-! ## A mark stays

  A job that is marked stays marked, whatever happens to it, and ends as canceled. -/

/-- Whatever is done with a `Marked` job, it stays marked. -/
theorem marked_effect {op : Op} (hop : op.EndsProperly) (now : Instant) {j : Job} (h : j.Marked) :
    (op.effect now j).Marked := by
  obtain ⟨hm, hs⟩ := h
  unfold Op.effect
  split
  · cases op with
    | create | impressions => exact ⟨hm, hs⟩
    | start => exact ⟨hm, .inl rfl⟩
    | stop =>
      simp only [Op.change, stopped]
      split
      · exact ⟨hm, .inr (.inl rfl)⟩
      · exact ⟨hm, hs⟩
    | finish id state =>
      -- whatever state is asked for, a marked job ends as canceled
      refine ⟨hm, .inr (.inr ?_)⟩
      simp [Op.change, finished, hm]
    | cancel | cancelAll =>
      have hsame : canceled now j = j := by
        rcases hs with hs | hs | hs <;>
          simp [canceled, canceled?, hs, hm, JobState.isWaiting, JobState.isRunning]
      rw [Op.change, hsame]
      exact ⟨hm, hs⟩
  · exact ⟨hm, hs⟩

/-- A `Marked` job stays marked through a run. -/
theorem marked_afterAll {q : JobQueue} (hq : q.WellFormed) {id : Int} (hid : id < q.nextId)
    {es : List (Instant × Op)} (hes : ∀ e ∈ es, e.2.EndsProperly)
    (h : ∀ j, q.find? id = some j → j.Marked) :
    ∀ j, (q.afterAll es).find? id = some j → j.Marked :=
  forall_find?_afterAll hq hid (fun e he _ => marked_effect (hes e he) e.1) h

/-! ## Without a mark, a job can be taken up again

  A job that was canceled while it waited has ended without a mark.  To start it, or to finish it in
  another state, undoes that; nothing else does. -/

/-- An operation that does not take the job up again leaves it `Withdrawn`. -/
theorem withdrawn_effect {op : Op} (now : Instant) {j : Job} (h : j.Withdrawn)
    (hop : ¬ op.TakesUp j.id) : (op.effect now j).Withdrawn := by
  obtain ⟨hm, hs⟩ := h
  cases hc : op.concerns j with
  | false => rw [effect_of_not_concerns hc]; exact ⟨hm, hs⟩
  | true =>
    rw [Op.effect, if_pos hc]
    cases op with
    | create | impressions => exact ⟨hm, hs⟩
    | start id =>
      have hid : id = j.id := by simpa [Op.concerns, Op.id?] using hc
      exact absurd hid hop
    | stop => simp [Op.change, stopped, hs, Job.Withdrawn, hm]
    | finish id state =>
      have hid : id = j.id := by simpa [Op.concerns, Op.id?] using hc
      -- to finish it in another state is to take it up
      have hstate : state = .canceled := by
        by_contra hne
        exact hop ⟨hid, hne⟩
      simp [Op.change, finished, Job.Withdrawn, hm, hstate]
    | cancel | cancelAll =>
      have hsame : canceled now j = j := canceled_of_ended now (by simp [Job.isActive, hs,
        JobState.isTerminal])
      rw [Op.change, hsame]
      exact ⟨hm, hs⟩

/-- A `Withdrawn` job that is taken up again is listed and does not stay canceled. -/
theorem taken_up {q : JobQueue} (hq : q.WellFormed) (now : Instant) {op : Op} {id : Int} {j : Job}
    (hj : q.find? id = some j) (h : j.Withdrawn) (hop : op.EndsProperly) (ht : op.TakesUp id) :
    ∃ i, (q.after now op).find? id = some i ∧ ¬ i.StaysCanceled := by
  have hend : j.isActive = false := by simp [Job.isActive, h.2, JobState.isTerminal]
  cases op with
  | start i =>
    obtain rfl : i = id := ht
    refine ⟨started now j, find?_after_of_ended hq rfl hj hend, ?_⟩
    simp [Job.StaysCanceled, started, JobState.isRunning, h.1]
  | finish i state =>
    obtain ⟨rfl, hne⟩ : i = id ∧ state ≠ .canceled := ht
    refine ⟨finished now state j, find?_after_of_ended hq rfl hj hend, ?_⟩
    cases state <;>
      simp_all [Op.EndsProperly, JobState.isTerminal, Job.StaysCanceled, finished, h.1]
  | create | stop | impressions | cancel | cancelAll => exact ht.elim

/-- **A `Withdrawn` job stays canceled exactly as long as no operation takes it up again.** Forward,
    the first operation that takes it up breaks it; backward, induction on the run from its end. -/
theorem withdrawn_lasts_iff {q : JobQueue} (hq : q.WellFormed) {id : Int} (hid : id < q.nextId)
    {es : List (Instant × Op)} (hes : ∀ e ∈ es, e.2.EndsProperly)
    (h : ∀ j, q.find? id = some j → j.Withdrawn) :
    (∀ before, before <+: es → ∀ j, (q.afterAll before).find? id = some j → j.StaysCanceled) ↔
      ∀ before e, before ++ [e] <+: es → e.2.TakesUp id → (q.afterAll before).find? id = none := by
  induction es generalizing q with
  | nil =>
    refine ⟨fun _ before e hb => ?_, fun _ before hb j hj => ?_⟩
    · simp at hb
    · obtain rfl := List.prefix_nil.mp hb
      exact (h j hj).staysCanceled
  | cons e es ih =>
    have he := hes e List.mem_cons_self
    have hes' : ∀ e' ∈ es, e'.2.EndsProperly := fun e' he' => hes e' (List.mem_cons_of_mem e he')
    have hid' := Int.lt_of_lt_of_le hid (nextId_le_after hq e.1 e.2)
    by_cases hup : e.2.TakesUp id ∧ ∃ j, q.find? id = some j
    · -- taken up at once: both sides fail
      obtain ⟨ht, j, hj⟩ := hup
      obtain ⟨i, hi, hni⟩ := taken_up hq e.1 hj (h j hj) he ht
      refine ⟨fun hl => absurd (hl [e] (by simp) i hi) hni, fun hr => ?_⟩
      have hnone := hr [] e (by simp) ht
      rw [afterAll_nil, hj] at hnone
      cases hnone
    · -- not taken up now: both sides go on with the queue after the step
      have hnext : ∀ j, (q.after e.1 e.2).find? id = some j → j.Withdrawn := by
        intro j hj
        obtain ⟨i, hi, rfl⟩ := find?_of_find?_after hq hid hj
        refine withdrawn_effect e.1 (h i hi) fun ht => hup ⟨?_, i, hi⟩
        rwa [((find?_eq_some_iff hq).mp hi).2] at ht
      have ih := ih (hq.after e.1 e.2) hid' hes' hnext
      constructor
      · intro hl before e' hb ht
        cases before with
        | nil =>
          obtain rfl : e' = e := by simpa using hb
          cases hf : q.find? id with
          | none => exact hf
          | some j => exact absurd ⟨ht, j, hf⟩ hup
        | cons b before =>
          obtain ⟨rfl, hb'⟩ := List.cons_prefix_cons.mp hb
          exact ih.mp (fun bs hbs => hl (b :: bs) (List.cons_prefix_cons.mpr ⟨rfl, hbs⟩))
            before e' hb' ht
      · intro hr before hb j hj
        cases before with
        | nil => exact (h j hj).staysCanceled
        | cons b before =>
          obtain ⟨rfl, hb'⟩ := List.cons_prefix_cons.mp hb
          exact ih.mpr (fun bs e' hbs => hr (b :: bs) e' (List.cons_prefix_cons.mpr ⟨rfl, hbs⟩))
            before hb' j hj

/-! ## What a cancel leaves

  A cancellation that takes effect marks a job that runs, and ends one that waits.  So the two
  sections above are the two cases of the main statement. -/

/-- The step of `unmarked_of_waiting`: a job that waits is not marked by anything but a
    cancellation, and that ends it. -/
theorem unmarked_effect {op : Op} (hop : op.EndsProperly) (now : Instant) {j : Job}
    (h : j.state.isWaiting = true → j.isCanceled = false) :
    (op.effect now j).state.isWaiting = true → (op.effect now j).isCanceled = false := by
  unfold Op.effect
  split
  · cases op with
    | create | impressions => exact h
    | start => exact fun hw => absurd hw (by simp [Op.change, started, JobState.isWaiting])
    | stop =>
      simp only [Op.change, stopped]
      split
      · exact fun hw => absurd hw (by simp [JobState.isWaiting])
      · exact h
    | finish id state =>
      intro hw
      cases hm : j.isCanceled with
      | true => simp [Op.change, finished, hm, JobState.isWaiting] at hw
      | false => exact hm
    | cancel | cancelAll =>
      simp only [Op.change, canceled, canceled?]
      split
      · exact fun hw => absurd hw (by simp [JobState.isWaiting])
      · split
        · rename_i hnw _
          exact fun hw => absurd hw hnw
        · exact h
  · exact h

/-- A job that waits has no mark, as long as jobs are ended properly (`ReachableProperly`). -/
theorem unmarked_of_waiting {q : JobQueue} (hq : q.ReachableProperly) :
    ∀ j ∈ q.jobs, j.state.isWaiting = true → j.isCanceled = false := by
  obtain ⟨limit, es, hes, rfl⟩ := hq
  refine forall_afterAll (wellFormed_empty limit) (fun e he j => unmarked_effect (hes e he) e.1)
    (fun q now op j hj => ?_) fun j hj => by cases hj
  cases op with
  | create name owner held =>
    rw [Op.added, List.mem_singleton] at hj
    subst hj
    exact fun _ => rfl
  | _ => exact absurd hj (by simp [Op.added])

/-- A `cancel` that applies is about a job that waits or runs, and changes it; these are the two
    traces. -/
theorem cancel_true {q q₁ : JobQueue} {now : Instant} {id : Int}
    (h : q.cancel now id = .ok (true, q₁)) :
    q₁ = q.after now (.cancel id) ∧ ∃ j, q.find? id = some j ∧
      (j.state.isWaiting = true ∨ (j.state.isRunning = true ∧ j.isCanceled = false)) := by
  have hafter : q₁ = q.after now (.cancel id) := by simp [after, run, h, Except.map]
  refine ⟨hafter, ?_⟩
  cases hf : q.find? id with
  | none => rw [cancel_eq_error hf] at h; cases h
  | some j =>
    refine ⟨j, rfl, ?_⟩
    rw [cancel, get_of_find? hf] at h
    cases hc : canceled? now j with
    | none => simp [bind, Except.bind, pure, Except.pure, hc] at h
    | some i =>
      unfold canceled? at hc
      split at hc
      · rename_i hw; exact .inl hw
      · split at hc
        · rename_i hr
          exact .inr (by simpa using hr)
        · cases hc

/-- **How long a cancel lasts.** For a queue that any proper run leads to (`ReachableProperly`), and
    any proper run after a cancel that applied: the job stays canceled (`Job.StaysCanceled`) at
    every point of that run exactly if it was running when it was canceled, or no operation takes it
    up again while it is listed. -/
theorem cancel_lasts_iff {q q₁ : JobQueue} {id : Int} {now : Instant} {es : List (Instant × Op)}
    (hq : q.ReachableProperly) (hcancel : q.cancel now id = .ok (true, q₁))
    (hes : ∀ e ∈ es, e.2.EndsProperly) :
    (∀ before, before <+: es → ∀ j, (q₁.afterAll before).find? id = some j → j.StaysCanceled) ↔
      (∃ j, q.find? id = some j ∧ j.state.isRunning = true) ∨
      ∀ before e, before ++ [e] <+: es → e.2.TakesUp id → (q₁.afterAll before).find? id = none := by
  have hw := hq.reachable.wellFormed
  obtain ⟨rfl, j, hj, hstate⟩ := cancel_true hcancel
  obtain ⟨hjm, hjid⟩ := (find?_eq_some_iff hw).mp hj
  have hid : id < q.nextId := hjid ▸ (hw.numbered j hjm).2
  have hid₁ := Int.lt_of_lt_of_le hid (nextId_le_after hw now (.cancel id))
  -- whatever is listed under the number after the cancel is the canceled job
  have hafter : ∀ i, (q.after now (.cancel id)).find? id = some i → i = canceled now j := by
    intro i hi
    obtain ⟨k, hk, rfl⟩ := find?_of_find?_after hw hid hi
    obtain rfl : k = j := Option.some.inj (hk.symm.trans hj)
    rw [Op.effect, concerns_of_id? (rfl : Op.id? (.cancel id) = some id), if_pos (by simp [hjid])]
    rfl
  rcases hstate with hwait | ⟨hrun, hm⟩
  · have hwithdrawn : (canceled now j).Withdrawn := by
      have hm := unmarked_of_waiting hq j hjm hwait
      simp [canceled, canceled?, hwait, Job.Withdrawn, hm]
    rw [withdrawn_lasts_iff (hw.after now _) hid₁ hes fun i hi => hafter i hi ▸ hwithdrawn]
    have hnot : ¬ ∃ i, q.find? id = some i ∧ i.state.isRunning = true := by
      rintro ⟨i, hi, hr⟩
      obtain rfl : i = j := Option.some.inj (hi.symm.trans hj)
      cases hs : i.state <;> simp [hs, JobState.isWaiting, JobState.isRunning] at hwait hr
    exact ⟨.inr, fun h => h.resolve_left hnot⟩
  · have hmarked : (canceled now j).Marked := by
      have hnw : j.state.isWaiting = false := by
        cases hs : j.state <;> simp [hs, JobState.isWaiting, JobState.isRunning] at hrun ⊢
      refine ⟨by simp [canceled, canceled?, hnw, hrun, hm], ?_⟩
      cases hs : j.state <;>
        simp [canceled, canceled?, hm, hs, JobState.isWaiting, JobState.isRunning] at hrun ⊢
    refine ⟨fun _ => .inl ⟨j, hj, hrun⟩, fun _ before hb i hi => ?_⟩
    have hbefore : ∀ e ∈ before, e.2.EndsProperly := fun e he => hes e (hb.subset he)
    exact (marked_afterAll (hw.after now _) hid₁ hbefore (fun k hk => hafter k hk ▸ hmarked)
      i hi).staysCanceled

/-- A job canceled while it runs, that is stopped, started again and ended as completed. -/
theorem cancel_lasts_running_job :
    let q := ({} : JobQueue).afterAll [(⟨0⟩, .create "a" "x" false), (⟨1⟩, .start 1)]
    let q₁ := q.after ⟨2⟩ (.cancel 1)
    let es : List (Instant × Op) := [(⟨3⟩, .stop 1), (⟨4⟩, .start 1), (⟨5⟩, .finish 1 .completed)]
    q.ReachableProperly ∧ q.cancel ⟨2⟩ 1 = .ok (true, q₁) ∧ (∀ e ∈ es, e.2.EndsProperly) ∧
      ∀ before, before <+: es → ∀ j, (q₁.afterAll before).find? 1 = some j → j.StaysCanceled := by
  intro q q₁ es
  have hq : q.ReachableProperly := ⟨100, _, by simp [Op.EndsProperly], rfl⟩
  have hcancel : q.cancel ⟨2⟩ 1 = .ok (true, q₁) := rfl
  have hes : ∀ e ∈ es, e.2.EndsProperly := by simp [es, Op.EndsProperly, JobState.isTerminal]
  have hrun : ∃ j, q.find? 1 = some j ∧ j.state.isRunning = true := ⟨_, rfl, rfl⟩
  exact ⟨hq, hcancel, hes, (cancel_lasts_iff hq hcancel hes).mpr (.inl hrun)⟩

/-- A cancel does not always last: a waiting job that is canceled can be started and completed. -/
theorem not_cancel_lasts :
    ¬ ∀ (q q₁ : JobQueue) (id : Int) (now : Instant) (es : List (Instant × Op)),
      q.ReachableProperly → q.cancel now id = .ok (true, q₁) → (∀ e ∈ es, e.2.EndsProperly) →
      ∀ j, (q₁.afterAll es).find? id = some j → j.StaysCanceled := by
  intro h
  have hq : (({} : JobQueue).afterAll [(⟨0⟩, .create "a" "x" false)]).ReachableProperly :=
    ⟨100, _, by simp [Op.EndsProperly], rfl⟩
  have hlast := h _ _ 1 ⟨0⟩ [(⟨0⟩, .start 1), (⟨0⟩, .finish 1 .completed)] hq rfl
    (by simp [Op.EndsProperly, JobState.isTerminal])
    ⟨1, "a", "x", .completed, 0, false, some ⟨0⟩, some ⟨0⟩, some ⟨0⟩⟩ (by decide)
  exact absurd hlast (by decide)

end JobQueue

end PrinterConsole
