/-
  The history of the job queue: no job is lost, duplicated or kept too long.

  All of it follows from one fact (`after_eq`): a step changes the jobs it concerns and then
  purges.  What the change adds is written out, a new job at the end of the list for a `create`
  and nothing for the other operations (`Op.added`), so a new job is listed with all its fields as
  they were given.

  A purge cuts the ended jobs, which ascend by number, at the front, so what it takes are the
  oldest ones (`ended_purge`); a number is given out by counting up and is never taken back
  (`nextId_afterAll`).

  Main statement: `history_of_run`, for every limit and every run of operations.
-/
import PrinterConsole.Proofs.Queue.Step

namespace PrinterConsole.JobQueue

/-! ## Numbers are counted up -/

/-- The operation adds a job, that is, it is a `create`. -/
def Op.isCreate : Op → Bool
  | .create .. => true
  | _ => false

/-- How many jobs the run `es` adds. -/
def creations (es : List (Instant × Op)) : Nat := es.countP fun e => e.2.isCreate

theorem nextId_after {q : JobQueue} (hq : q.WellFormed) (now : Instant) (op : Op) :
    (q.after now op).nextId = q.nextId + (if op.isCreate then 1 else 0) := by
  rw [after_eq hq, nextId_purge]
  cases op <;> simp [changed, Op.added, Op.isCreate]

theorem limit_after {q : JobQueue} (hq : q.WellFormed) (now : Instant) (op : Op) :
    (q.after now op).limit = q.limit := by
  rw [after_eq hq]; rfl

/-- A run gives out one number for each job it adds (`creations`). -/
theorem nextId_afterAll {q : JobQueue} (hq : q.WellFormed) (es : List (Instant × Op)) :
    (q.afterAll es).nextId = q.nextId + creations es := by
  induction es generalizing q with
  | nil => simp [creations]
  | cons e es ih =>
    rw [afterAll_cons, ih (hq.after e.1 e.2), nextId_after hq, creations, creations,
      List.countP_cons]
    split <;> omega

theorem limit_afterAll {q : JobQueue} (hq : q.WellFormed) (es : List (Instant × Op)) :
    (q.afterAll es).limit = q.limit := by
  induction es generalizing q with
  | nil => rfl
  | cons e es ih => rw [afterAll_cons, ih (hq.after e.1 e.2), limit_after hq]

/-! ## Reading -/

theorem newestFirst_descending {q : JobQueue} (hq : q.WellFormed) :
    q.newestFirst.Pairwise fun i j => j.id < i.id :=
  List.pairwise_reverse.mpr hq.ascending

theorem find?_eq_some_iff_mem_newestFirst {q : JobQueue} (hq : q.WellFormed) {id : Int} {j : Job} :
    q.find? id = some j ↔ j ∈ q.newestFirst ∧ j.id = id := by
  rw [find?_eq_some_iff hq, newestFirst, List.mem_reverse]

theorem active_ascending {q : JobQueue} (hq : q.WellFormed) :
    q.active.Pairwise fun i j => i.id < j.id :=
  hq.ascending.sublist List.filter_sublist

theorem mem_active {q : JobQueue} {j : Job} :
    j ∈ q.active ↔ j ∈ q.newestFirst ∧ j.isActive = true := by
  rw [active, List.mem_filter, newestFirst, List.mem_reverse]

/-! ## What a step takes away and what it leaves alone -/

theorem ended_ascending_changed {q : JobQueue} (hq : q.WellFormed) (now : Instant) (op : Op) :
    (q.changed now op).ended.Pairwise fun i j => i.id < j.id :=
  (ascending_changed hq now op).sublist List.filter_sublist

/-- A job that an operation does not concern (`Op.concerns`) comes out of it as it was, if it comes
    out of it. -/
theorem eq_of_not_concerns {q : JobQueue} (hq : q.WellFormed) (now : Instant) {op : Op} {i j : Job}
    (hi : i ∈ q.jobs) (hj : j ∈ (q.changed now op).purge.jobs) (hid : j.id = i.id)
    (hc : op.concerns i = false) : j = i := by
  rcases mem_changed.mp ((purge_sublist _).subset hj) with ⟨k, hk, rfl⟩ | hadd
  · rw [id_effect] at hid
    obtain rfl := eq_of_id_eq hq.ascending hk hi hid
    exact effect_of_not_concerns hc
  · have := (mem_added hadd).1
    have := (hq.numbered i hi).2
    omega

/-- **The history of a run.**  For every limit and every run from an empty queue: -/
theorem history_of_run (limit : Int) (es : List (Instant × Op)) :
    let q := ({ limit := limit } : JobQueue).afterAll es
    -- the next job that is added gets the number of jobs added so far and one, and it is listed
    -- behind all others, which stay as they are
    (∀ now name owner held, ∃ q', q.run now (.create name owner held) =
        .ok (.number (creations es + 1), q') ∧
      q'.jobs = q.jobs ++
        [{ id := creations es + 1
           name := name
           owner := owner
           state := if held then .held else .pending
           created := some now }]) ∧
    -- ended jobs are kept up to the limit, and none if the limit is negative
    (q.ended.length : Int) ≤ max 0 limit ∧
    -- a step, once its jobs are changed, takes away the oldest ended ones beyond the limit and
    -- nothing else; what it does not concern and does not take away it leaves as it was
    (∀ now op a q', q.run now op = .ok (a, q') →
      let changed := q.changed now op
      q'.jobs.Sublist changed.jobs ∧
      q'.active = changed.active ∧
      changed.ended.Pairwise (fun i j => i.id < j.id) ∧
      q'.ended = changed.ended.drop (changed.ended.length - max 0 limit).toNat ∧
      ∀ i ∈ q.jobs, ∀ j ∈ q'.jobs, j.id = i.id → op.concerns i = false → j = i) ∧
    -- every way of reading shows the same jobs, each of them once
    (q.newestFirst.Pairwise (fun i j => j.id < i.id) ∧
      q.active.Pairwise (fun i j => i.id < j.id) ∧
      (∀ j, j ∈ q.active ↔ j ∈ q.newestFirst ∧ j.isActive = true) ∧
      (∀ id j, q.find? id = some j ↔ j ∈ q.newestFirst ∧ j.id = id) ∧
      q.size = q.newestFirst.length ∧
      q.activeCount = q.active.length) ∧
    -- an operation fails exactly if it is about a job that is not there, and then changes nothing
    (∀ now op id, op.id? = some id → q.find? id = none →
      q.run now op = .error (.problem (.unknownJob (.int id))) ∧ q.after now op = q) ∧
    (∀ now op, (∀ id, op.id? = some id → q.find? id ≠ none) → ∃ a q', q.run now op = .ok (a, q'))
    := by
  intro q
  have hq : q.WellFormed := (wellFormed_empty limit).afterAll es
  have hlimit : q.limit = limit := limit_afterAll (wellFormed_empty limit) es
  have hnext : q.nextId = creations es + 1 := by
    have h : q.nextId = 1 + creations es := nextId_afterAll (wellFormed_empty limit) es
    omega
  refine ⟨?_, ?_, ?_, ?_, ?_, ?_⟩
  · intro now name owner held
    refine ⟨(q.create now name owner held).2, ?_, ?_⟩
    · rw [← hnext]
      rfl
    · rw [← hnext]
      rfl
  · have := hq.bounded
    omega
  · intro now op a q' hrun
    have hq' : q' = (q.changed now op).purge := by
      rw [← after_eq hq, after, hrun]
    subst hq'
    have hnd := nodup_of_ascending (ascending_changed hq now op)
    have hcut : ((q.changed now op).ended.length - max 0 limit).toNat =
        (q.changed now op).ended.length - (q.changed now op).limit.toNat := by
      rw [show (q.changed now op).limit = limit from hlimit]
      omega
    exact ⟨purge_sublist _, active_purge hnd, ended_ascending_changed hq now op,
      by rw [hcut]; exact ended_purge hnd,
      fun i hi j hj hid hc => eq_of_not_concerns hq now hi hj hid hc⟩
  · exact ⟨newestFirst_descending hq, active_ascending hq, fun j => mem_active,
      fun id j => find?_eq_some_iff_mem_newestFirst hq, by simp [size, newestFirst], rfl⟩
  · intro now op id hid hf
    have hrun := run_of_unknown now hid hf
    exact ⟨hrun, by rw [after, hrun]⟩
  · intro now op h
    obtain ⟨a, ha⟩ := run_of_known hq now h
    exact ⟨a, _, ha⟩

end PrinterConsole.JobQueue
