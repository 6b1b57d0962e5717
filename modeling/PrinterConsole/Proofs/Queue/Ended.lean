/-
  What can still happen to a job that has ended.

  The states of a job are meant to form a way: it waits, it runs, it ends.  Most operations keep
  to that.  A job that has ended is not stopped, canceled or counted as active, and when others
  end it is purged whole or left alone.  Two operations look at nothing but the number: beginning
  a job and ending it.  They overwrite how and when it ended (`Op.Overwrites`).

  One step is told exactly, by `sameEnd_after_iff`: the end of the job is kept or the job is
  purged, if and only if the step does not overwrite it.  For a run it is enough that no operation
  drives the job (`Op.Drives`), which is a condition on the operations alone.

  Main statements: a step keeps how and when a job ended, or purges it, exactly if it does not
  overwrite that; so along a run in which the job is neither begun nor ended again, it stays ended
  as it was (`ended_kept_iff`).  `not_forall_ended_kept` is the shortest run in which it does not.
-/
import PrinterConsole.Proofs.Queue.CancelFinal

namespace PrinterConsole

/-- The records `i` and `j` tell the same end: how it came, and when. -/
def Job.SameEnd (i j : Job) : Prop := i.state = j.state ∧ i.completed = j.completed

namespace JobQueue

/-- The operation begins the job `j` again, or ends it in another way or at another time than it
    did. -/
def Op.Overwrites (now : Instant) (j : Job) : Op → Prop
  | .start id => id = j.id
  | .finish id state =>
    id = j.id ∧ ((if j.isCanceled then .canceled else state) ≠ j.state ∨ j.completed ≠ some now)
  | _ => False

/-- The operation begins the job of the number `id`, or ends it. -/
def Op.Drives (id : Int) : Op → Prop
  | .start i | .finish i _ => i = id
  | _ => False

theorem not_overwrites_of_not_drives {op : Op} {j : Job} (h : ¬ op.Drives j.id) (now : Instant) :
    ¬ op.Overwrites now j := by
  intro ho
  cases op with
  | start => exact h ho
  | finish => exact h ho.1
  | _ => exact ho

/-! ## One step -/

/-- What a step does to a job that has ended tells the same end, exactly if the step does not
    overwrite it (`Op.Overwrites`). -/
theorem sameEnd_change_iff {now : Instant} {op : Op} {j : Job} (hid : op.id? = some j.id)
    (hend : j.isActive = false) : (op.change now j).SameEnd j ↔ ¬ op.Overwrites now j := by
  cases op with
  | create | cancelAll => cases hid
  | start id =>
    obtain rfl : id = j.id := Option.some.inj hid
    refine ⟨fun h => ?_, fun h => absurd rfl h⟩
    -- a job that was begun has not ended
    rw [Job.isActive, ← h.1] at hend
    cases hend
  | finish id state =>
    obtain rfl : id = j.id := Option.some.inj hid
    simp only [Op.change, finished, Job.SameEnd, Op.Overwrites, true_and, not_or, not_not, eq_comm]
  | stop id =>
    have hs : j.state ≠ .processing := by
      intro hs
      rw [Job.isActive, hs] at hend
      cases hend
    simp [Op.change, stopped, hs, Job.SameEnd, Op.Overwrites]
  | impressions => exact ⟨fun _ h => h, fun _ => ⟨rfl, rfl⟩⟩
  | cancel =>
    rw [Op.change, canceled_of_ended now hend]
    exact ⟨fun _ h => h, fun _ => ⟨rfl, rfl⟩⟩

theorem effect_of_ended {now : Instant} {op : Op} {j : Job} (hid : op.id? ≠ some j.id)
    (hend : j.isActive = false) : op.effect now j = j := by
  apply effect_of_not_concerns
  cases op <;> simp_all [Op.concerns, Op.id?]

/-- **A step keeps how a job ended, or purges it, exactly if it does not overwrite that**
    (`Op.Overwrites`). -/
theorem sameEnd_after_iff {q : JobQueue} (hq : q.WellFormed) {id : Int} {j : Job}
    (hj : q.find? id = some j) (hend : j.isActive = false) (now : Instant) (op : Op) :
    (∀ i, (q.after now op).find? id = some i → i.SameEnd j) ↔ ¬ op.Overwrites now j := by
  obtain ⟨hjm, rfl⟩ := (find?_eq_some_iff hq).mp hj
  by_cases hid : op.id? = some j.id
  · rw [find?_after_of_ended hq hid hj hend, ← sameEnd_change_iff hid hend]
    simp
  · have hnot : ¬ op.Overwrites now j := by
      refine not_overwrites_of_not_drives (fun hdrives => hid ?_) now
      cases op with
      | start | finish => exact congrArg some hdrives
      | _ => exact hdrives.elim
    refine ⟨fun _ => hnot, fun _ i hi => ?_⟩
    obtain ⟨k, hk, rfl⟩ := find?_of_find?_after hq (hq.numbered j hjm).2 hi
    obtain rfl : j = k := Option.some.inj (hj.symm.trans hk)
    rw [effect_of_ended hid hend]
    exact ⟨rfl, rfl⟩

/-! ## Runs -/

/-- An operation that does not drive a job (`Op.Drives`) keeps how it ended. -/
theorem sameEnd_effect {now : Instant} {op : Op} {i j : Job} (h : ¬ op.Drives i.id)
    (hi : i.SameEnd j) (hend : j.isActive = false) : (op.effect now i).SameEnd j := by
  have hend' : i.isActive = false := by rwa [Job.isActive, hi.1]
  by_cases hid : op.id? = some i.id
  · rw [effect_of_id? now hid rfl]
    have hsame := (sameEnd_change_iff hid hend').mpr (not_overwrites_of_not_drives h now)
    exact ⟨hsame.1.trans hi.1, hsame.2.trans hi.2⟩
  · rwa [effect_of_ended hid hend']

/-- **How long a job stays ended.** For every queue that some run leads to, every job in it that has
    ended, and every operation at every time: afterwards the job is purged or tells the same end
    (`Job.SameEnd`), exactly if the operation does not overwrite it (`Op.Overwrites`).  So a job
    that is neither begun nor ended again tells the same end as long as it is listed, whatever else
    is done. -/
theorem ended_kept_iff {q : JobQueue} (hq : q.Reachable) {id : Int} {j : Job}
    (hj : q.find? id = some j) (hend : j.state.isTerminal = true) :
    (∀ now op, ((q.after now op).find? id = none ∨
        ∃ i, (q.after now op).find? id = some i ∧ i.SameEnd j) ↔ ¬ op.Overwrites now j) ∧
      ∀ es : List (Instant × Op), (∀ e ∈ es, ¬ e.2.Drives id) →
        (q.afterAll es).find? id = none ∨
          ∃ i, (q.afterAll es).find? id = some i ∧ i.SameEnd j := by
  have hw := hq.wellFormed
  have hactive : j.isActive = false := by simp [Job.isActive, hend]
  obtain ⟨hjm, hjid⟩ := (find?_eq_some_iff hw).mp hj
  have hkept : ∀ {q' : JobQueue}, (∀ i, q'.find? id = some i → i.SameEnd j) ↔
      (q'.find? id = none ∨ ∃ i, q'.find? id = some i ∧ i.SameEnd j) := by
    intro q'
    cases q'.find? id <;> simp
  constructor
  · intro now op
    rw [← hkept]
    exact sameEnd_after_iff hw hj hactive now op
  · intro es hes
    rw [← hkept]
    have hrun := forall_find?_afterAll (P := fun i => i.id = id ∧ i.SameEnd j) hw
      (hjid ▸ (hw.numbered j hjm).2)
      (fun e he i hi => ⟨(id_effect e.1 e.2 i).trans hi.1,
        sameEnd_effect (hi.1 ▸ hes e he) hi.2 hactive⟩)
      fun i hi => ?_
    · exact fun i hi => (hrun i hi).2
    · obtain rfl : j = i := Option.some.inj (hj.symm.trans hi)
      exact ⟨hjid, rfl, rfl⟩

/-- A job that was canceled while it ran, and is ended once more in the second in which it ended. -/
theorem ended_kept_iff_canceled_job :
    let q := ({} : JobQueue).afterAll [(⟨0⟩, .create "a" "x" false), (⟨1⟩, .start 1),
      (⟨2⟩, .cancel 1), (⟨3⟩, .finish 1 .completed)]
    let j : Job := ⟨1, "a", "x", .canceled, 0, true, some ⟨0⟩, some ⟨1⟩, some ⟨3⟩⟩
    q.Reachable ∧ q.find? 1 = some j ∧ j.state.isTerminal = true ∧
      ((q.after ⟨3⟩ (.finish 1 .aborted)).find? 1 = none ∨
        ∃ i, (q.after ⟨3⟩ (.finish 1 .aborted)).find? 1 = some i ∧ i.SameEnd j) := by
  intro q j
  have hq : q.Reachable := ⟨100, _, rfl⟩
  have hj : q.find? 1 = some j := by decide
  refine ⟨hq, hj, rfl, ((ended_kept_iff hq hj rfl).1 ⟨3⟩ (.finish 1 .aborted)).mpr ?_⟩
  rintro ⟨-, hstate | htime⟩
  · exact hstate rfl
  · exact htime rfl

/-- Not every operation keeps how a job ended: a completed job can be begun again. -/
theorem not_forall_ended_kept :
    ¬ ∀ (q : JobQueue) (id : Int) (j : Job) (now : Instant) (op : Op), q.Reachable →
      q.find? id = some j → j.state.isTerminal = true →
        (q.after now op).find? id = none ∨
          ∃ i, (q.after now op).find? id = some i ∧ i.SameEnd j := by
  intro h
  let q := ({} : JobQueue).afterAll
    [(⟨0⟩, .create "a" "x" false), (⟨0⟩, .start 1), (⟨0⟩, .finish 1 .completed)]
  let j : Job := ⟨1, "a", "x", .completed, 0, false, some ⟨0⟩, some ⟨0⟩, some ⟨0⟩⟩
  have hafter : (q.after ⟨0⟩ (.start 1)).find? 1 = some (started ⟨0⟩ j) := by decide
  rcases h q 1 j ⟨0⟩ (.start 1) ⟨100, _, rfl⟩ (by decide) rfl with hnone | ⟨i, hi, hsame⟩
  · rw [hafter] at hnone
    cases hnone
  · obtain rfl : started ⟨0⟩ j = i := Option.some.inj (hafter.symm.trans hi)
    cases hsame.1

end JobQueue

end PrinterConsole
