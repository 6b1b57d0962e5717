/-
  Canceling all jobs at once and canceling them one by one.

  One by one, every cancel is followed by a purge; all at once, there is one purge at the end.
  The purges in between drop ended jobs only, and a job that has ended is not among those still to
  be canceled, so by absorption (`purge_mapJobs_purge`) the last purge alone decides.

  Both ways are brought to one form, a change of every job and a purge: `cancelEach_eq` for the
  numbers one by one, by induction on them, and `cancelAll_eq` for all jobs at once.  With the
  numbers of all active jobs the two changes are the same (`mapJobs_canceledAmong`).

  Main statement: in any order the two lead to the same queue, and what the job table offers for
  canceling is what is canceled (`cancelAll_eq_one_by_one`).
-/
import PrinterConsole.Proofs.Queue.Step

namespace PrinterConsole.JobQueue

/-! ## Canceling and what the job table offers

  The table offers to cancel a job exactly if a cancellation would do something, and after one it
  does not. -/

/-- **Canceling applies to exactly the jobs for which the table offers it** (`Job.canCancel`). -/
theorem isSome_canceled? (now : Instant) (j : Job) : (canceled? now j).isSome = j.canCancel := by
  unfold canceled? Job.canCancel
  cases hs : j.state <;> cases hc : j.isCanceled <;>
    simp [JobState.isWaiting, JobState.isRunning]

theorem canceled?_eq_none_iff {now : Instant} {j : Job} :
    canceled? now j = none ↔ j.canCancel = false := by
  rw [← isSome_canceled? now, Option.isSome_eq_false_iff, Option.isNone_iff_eq_none]

theorem canceled_of_not_canCancel {now : Instant} {j : Job} (h : j.canCancel = false) :
    canceled now j = j := by
  rw [canceled, canceled?_eq_none_iff.mpr h, Option.getD_none]

/-- What has been `canceled` cannot be canceled again. -/
theorem canCancel_canceled (now : Instant) (j : Job) : (canceled now j).canCancel = false := by
  unfold canceled canceled? Job.canCancel
  cases hs : j.state <;> cases hc : j.isCanceled <;>
    simp [JobState.isWaiting, JobState.isRunning, hs, hc]

theorem not_canCancel_of_ended {j : Job} (h : j.isActive = false) : j.canCancel = false := by
  cases hc : j.canCancel with
  | false => rfl
  | true => rw [Job.isActive_of_canCancel hc] at h; cases h

/-! ## One by one

  To cancel jobs one after another, each with a purge, comes to changing them all and purging once.
  The induction is on the list of numbers, which may be in any order. -/

/-- Cancels the jobs of the given numbers one by one, and tells of each whether `cancel` applied to
    it. -/
def cancelEach (q : JobQueue) (now : Instant) : List Int → Except Fault (List Bool × JobQueue)
  | [] => .ok ([], q)
  | id :: ids => do
    let (flag, q₁) ← q.cancel now id
    let (flags, q₂) ← cancelEach q₁ now ids
    return (flag :: flags, q₂)

/-- A job after attempts to cancel the jobs of the numbers `ids`. -/
def canceledAmong (now : Instant) (ids : List Int) (j : Job) : Job :=
  if j.id ∈ ids then canceled now j else j

@[simp] theorem id_canceledAmong (now : Instant) (ids : List Int) (j : Job) :
    (canceledAmong now ids j).id = j.id := by
  unfold canceledAmong; split <;> simp

theorem canceledAmong_of_ended (now : Instant) (ids : List Int) {j : Job}
    (h : j.isActive = false) : canceledAmong now ids j = j := by
  unfold canceledAmong; split
  · exact canceled_of_ended now h
  · rfl

theorem canceledAmong_cons (now : Instant) {id : Int} {ids : List Int} (h : id ∉ ids) (j : Job) :
    canceledAmong now ids (canceledAmong now [id] j) = canceledAmong now (id :: ids) j := by
  by_cases hj : j.id = id
  · subst hj; simp [canceledAmong, h]
  · simp [canceledAmong, hj]

/-- Canceling applies to the job of the number `id`. -/
def cancelable (q : JobQueue) (id : Int) : Bool := (q.find? id).any Job.canCancel

theorem changed_cancel (q : JobQueue) (now : Instant) (id : Int) :
    q.changed now (.cancel id) = q.mapJobs (canceledAmong now [id]) := by
  have heff : Op.effect now (.cancel id) = canceledAmong now [id] := by
    funext j
    rw [Op.effect, concerns_of_id? (rfl : Op.id? (.cancel id) = some id)]
    by_cases hj : j.id = id <;> simp [canceledAmong, hj, Op.change]
  simp [changed, mapJobs, Op.added, heff]

/-- One cancel tells whether it applied (`cancelable`), changes the job and purges. -/
theorem cancel_of_mem {q : JobQueue} (hq : q.WellFormed) (now : Instant) {j : Job}
    (hj : j ∈ q.jobs) :
    q.cancel now j.id =
      .ok (q.cancelable j.id, (q.mapJobs (canceledAmong now [j.id])).purge) := by
  have hf : q.find? j.id = some j := (find?_eq_some_iff hq).mpr ⟨hj, rfl⟩
  have hafter := after_eq hq now (.cancel j.id)
  rw [changed_cancel] at hafter
  have hflag : q.cancelable j.id = (canceled? now j).isSome := by
    rw [cancelable, hf, isSome_canceled?]; rfl
  rw [← hafter, hflag]
  cases hc : canceled? now j <;>
    simp [after, run, cancel, get_of_find? hf, hc, bind, Except.bind, pure, Except.pure, Except.map]

/-- A job `j` that is active stays in the queue as it is while another one is canceled, also through
    the purge. -/
theorem mem_active_mapJobs_purge {q : JobQueue} (hq : q.WellFormed) (now : Instant) {id : Int}
    {j : Job} (hj : j ∈ q.active) (hid : j.id ≠ id) :
    j ∈ (q.mapJobs (canceledAmong now [id])).purge.active := by
  have hnd : ((q.mapJobs (canceledAmong now [id])).jobs.map Job.id).Nodup := by
    have hcomp : Job.id ∘ canceledAmong now [id] = Job.id := funext fun i => by simp
    simpa [mapJobs, hcomp] using nodup_of_ascending hq.ascending
  rw [active_purge hnd]
  obtain ⟨hjm, hja⟩ := List.mem_filter.mp hj
  have hsame : canceledAmong now [id] j = j := by simp [canceledAmong, hid]
  exact List.mem_filter.mpr ⟨List.mem_map.mpr ⟨j, hjm, hsame⟩, hja⟩

/-- **Cancels one by one are one change and one purge.** Induction on the numbers: the first cancel
    leaves the other jobs as they are, and its purge is absorbed (`purge_mapJobs_purge`). -/
theorem cancelEach_eq {q : JobQueue} (hq : q.WellFormed) (now : Instant) {ids : List Int}
    (hnd : ids.Nodup) (hids : ∀ id ∈ ids, ∃ j ∈ q.active, j.id = id) :
    q.cancelEach now ids =
      .ok (ids.map q.cancelable, (q.mapJobs (canceledAmong now ids)).purge) := by
  induction ids generalizing q with
  | nil =>
    have hmap : q.mapJobs (canceledAmong now []) = q := by
      have : canceledAmong now [] = fun j => j := by funext j; simp [canceledAmong]
      simp [mapJobs, this]
    rw [hmap, purge_eq_self hq.bounded]
    rfl
  | cons id ids ih =>
    obtain ⟨hid, hrnd⟩ := List.nodup_cons.mp hnd
    obtain ⟨j, hj, rfl⟩ := hids id List.mem_cons_self
    have hjm := (List.mem_filter.mp hj).1
    have hq₁ : (q.mapJobs (canceledAmong now [j.id])).purge.WellFormed := by
      rw [← changed_cancel]; exact hq.changed_purge now _
    -- the jobs still to be canceled are untouched by the first cancel
    have hrest : ∀ id ∈ ids, ∃ i ∈ (q.mapJobs (canceledAmong now [j.id])).purge.active,
        i ∈ q.jobs ∧ i.id = id := by
      intro id hmem
      obtain ⟨i, hi, rfl⟩ := hids id (List.mem_cons_of_mem _ hmem)
      exact ⟨i, mem_active_mapJobs_purge hq now hi (fun he => hid (he ▸ hmem)),
        (List.mem_filter.mp hi).1, rfl⟩
    have hflags : ids.map (q.mapJobs (canceledAmong now [j.id])).purge.cancelable =
        ids.map q.cancelable := by
      refine List.map_congr_left fun id hmem => ?_
      obtain ⟨i, hi, hiq, rfl⟩ := hrest id hmem
      rw [cancelable, cancelable, (find?_eq_some_iff hq).mpr ⟨hiq, rfl⟩,
        (find?_eq_some_iff hq₁).mpr ⟨(List.mem_filter.mp hi).1, rfl⟩]
    have habsorb : ((q.mapJobs (canceledAmong now [j.id])).purge.mapJobs
        (canceledAmong now ids)).purge = (q.mapJobs (canceledAmong now (j.id :: ids))).purge := by
      have hnd₁ : ((q.mapJobs (canceledAmong now [j.id])).jobs.map Job.id).Nodup := by
        rw [← changed_cancel]; exact nodup_of_ascending (ascending_changed hq now _)
      rw [purge_mapJobs_purge hnd₁ (id_canceledAmong now ids)
        fun i _ hi => by rwa [canceledAmong_of_ended now ids hi]]
      have hcomp : canceledAmong now ids ∘ canceledAmong now [j.id] =
          canceledAmong now (j.id :: ids) := funext (canceledAmong_cons now hid)
      simp [mapJobs, hcomp]
    rw [cancelEach, cancel_of_mem hq now hjm]
    simp only [bind, Except.bind]
    rw [ih hq₁ hrnd fun id hmem => (hrest id hmem).imp fun i hi => ⟨hi.1, hi.2.2⟩, hflags, habsorb]
    rfl

/-! ## All at once

  `cancelAll` cancels every active job, and only these can be canceled. -/

/-- All at once: every job is `canceled`, then the queue is purged. -/
theorem cancelAll_eq (q : JobQueue) (now : Instant) :
    q.cancelAll now =
      ((q.jobs.filter Job.canCancel).length, (q.mapJobs (canceled now)).purge) := by
  have hcount :
      (q.jobs.filterMap (canceled? now)).length = (q.jobs.filter Job.canCancel).length := by
    rw [List.length_filterMap_eq_countP, List.countP_eq_length_filter]
    simp only [isSome_canceled?]
  rw [cancelAll, hcount]
  rfl

/-- With the numbers `ids` of all active jobs, one by one changes what all at once changes: the
    other jobs have ended. -/
theorem mapJobs_canceledAmong {q : JobQueue} (now : Instant) {ids : List Int}
    (h : ∀ j ∈ q.active, j.id ∈ ids) :
    q.mapJobs (canceledAmong now ids) = q.mapJobs (canceled now) := by
  have hjobs : q.jobs.map (canceledAmong now ids) = q.jobs.map (canceled now) := by
    refine List.map_congr_left fun j hj => ?_
    cases ha : j.isActive with
    | true => rw [canceledAmong, if_pos (h j (List.mem_filter.mpr ⟨hj, ha⟩))]
    | false => rw [canceledAmong_of_ended now ids ha, canceled_of_ended now ha]
  rw [mapJobs, hjobs]
  rfl

/-- The numbers among `ids` whose job can be canceled are as many as such jobs. -/
theorem count_cancelable {q : JobQueue} (hq : q.WellFormed) {ids : List Int}
    (h : ids.Perm (q.active.map Job.id)) :
    (ids.map q.cancelable).count true = (q.jobs.filter Job.canCancel).length := by
  have hactive : ∀ j ∈ q.active, q.cancelable j.id = j.canCancel := by
    intro j hj
    rw [cancelable, (find?_eq_some_iff hq).mpr ⟨(List.mem_filter.mp hj).1, rfl⟩]
    rfl
  calc (ids.map q.cancelable).count true
      = ((q.active.map Job.id).map q.cancelable).count true := (h.map _).count_eq true
    _ = (q.active.map Job.canCancel).count true := by
        rw [List.map_map, List.map_congr_left (show ∀ j ∈ q.active,
          (q.cancelable ∘ Job.id) j = j.canCancel from hactive)]
    _ = (q.active.filter Job.canCancel).length := by
        rw [List.count_eq_countP, List.countP_map, List.countP_eq_length_filter]
        congr 1
        exact List.filter_congr fun j _ => by simp
    _ = (q.jobs.filter Job.canCancel).length := by
        rw [active, List.filter_filter]
        congr 1
        refine List.filter_congr fun j _ => ?_
        cases ha : j.isActive with
        | true => simp
        | false => simp [not_canCancel_of_ended ha]

/-- **Canceling all jobs at once and one by one.** With the clock standing still, canceling the
    active jobs one by one (`cancelEach`), in any order, succeeds and leads to the queue that
    `cancelAll` leads to, and it applies to as many jobs.  These are as many as the job table offers
    for canceling; afterwards it offers none, and canceling all jobs again changes nothing. -/
theorem cancelAll_eq_one_by_one {q : JobQueue} (hq : q.Reachable) (now : Instant) :
    (∀ ids : List Int, ids.Perm (q.active.map Job.id) →
      ∃ flags, q.cancelEach now ids = .ok (flags, (q.cancelAll now).2) ∧
        flags.count true = (q.cancelAll now).1) ∧
    ((q.newestFirst.map Job.row).filter Job.Row.showCancel).length = (q.cancelAll now).1 ∧
    (∀ row ∈ (q.cancelAll now).2.newestFirst.map Job.row, row.showCancel = false) ∧
    ∀ later, (q.cancelAll now).2.cancelAll later = (0, (q.cancelAll now).2) := by
  have hw := hq.wellFormed
  -- what is left after the cancel offers no cancel, which settles the last two parts
  have hnone : ∀ j ∈ (q.mapJobs (canceled now)).purge.jobs, j.canCancel = false := by
    intro j hj
    obtain ⟨i, _, rfl⟩ := List.mem_map.mp ((purge_sublist _).subset hj)
    exact canCancel_canceled now i
  have hwf : (q.mapJobs (canceled now)).purge.WellFormed := by
    have h := hw.after now .cancelAll
    rwa [after, run, cancelAll_eq] at h
  rw [cancelAll_eq]
  refine ⟨?_, ?_, ?_, ?_⟩
  · intro ids hids
    have hnd : ids.Nodup := by
      rw [hids.nodup_iff]
      exact nodup_of_ascending (hw.ascending.sublist List.filter_sublist)
    have hmem : ∀ id ∈ ids, ∃ j ∈ q.active, j.id = id :=
      fun id hid => List.mem_map.mp (hids.mem_iff.mp hid)
    have hall : ∀ j ∈ q.active, j.id ∈ ids :=
      fun j hj => hids.mem_iff.mpr (List.mem_map_of_mem hj)
    refine ⟨ids.map q.cancelable, ?_, count_cancelable hw hids⟩
    rw [cancelEach_eq hw now hnd hmem, mapJobs_canceledAmong now hall]
  · rw [List.filter_map, List.length_map, newestFirst, List.filter_reverse, List.length_reverse]
    rfl
  · intro row hrow
    obtain ⟨j, hj, rfl⟩ := List.mem_map.mp hrow
    exact hnone j (List.mem_reverse.mp hj)
  · intro later
    rw [cancelAll_eq, List.filter_eq_nil_iff.mpr fun j hj => by simp [hnone j hj]]
    have hsame : (q.mapJobs (canceled now)).purge.mapJobs (canceled later) =
        (q.mapJobs (canceled now)).purge := by
      rw [mapJobs, List.map_congr_left fun j hj => canceled_of_not_canCancel (hnone j hj),
        List.map_id']
    rw [hsame, purge_eq_self hwf.bounded]
    rfl

/-- Two waiting jobs and a running one, with room for one ended job, canceled out of order. -/
theorem cancelAll_eq_one_by_one_three_jobs :
    let q := ({ limit := 1 } : JobQueue).afterAll
      [(⟨0⟩, .create "a" "x" false), (⟨1⟩, .create "b" "x" true), (⟨2⟩, .create "c" "y" false),
       (⟨3⟩, .start 2)]
    q.Reachable ∧ [3, 1, 2].Perm (q.active.map Job.id) ∧
      ∃ flags, q.cancelEach ⟨4⟩ [3, 1, 2] = .ok (flags, (q.cancelAll ⟨4⟩).2) ∧
        flags.count true = 3 := by
  intro q
  have hq : q.Reachable := ⟨1, _, rfl⟩
  have hp : [3, 1, 2].Perm (q.active.map Job.id) := by decide
  have hcount : (q.cancelAll ⟨4⟩).1 = 3 := by decide
  obtain ⟨flags, hrun, hflags⟩ := (cancelAll_eq_one_by_one hq ⟨4⟩).1 [3, 1, 2] hp
  exact ⟨hq, hp, flags, hrun, hflags.trans hcount⟩

end PrinterConsole.JobQueue
