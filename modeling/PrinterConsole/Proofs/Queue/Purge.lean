/-
  What a purge of the job queue keeps.

  A purge is defined by what it takes away: the oldest ended jobs beyond the limit.  Seen from the
  newest job on it is one pass with an allowance (`kept`): an active job stays, and an ended one
  stays as long as the allowance lasts.

  In this form a purge and a change of the jobs can change places, because the pass looks at each
  job once and forgets only ended ones (`kept_map_kept`).  That the two forms agree needs the
  numbers of the jobs to differ, since a purge takes jobs out by their number
  (`filter_beyond_eq_kept`).

  Main statements: a purge is that pass (`jobs_purge`); it keeps the active jobs and the newest
  ended ones (`filter_active_kept`, `filter_ended_kept`); and a purge before a change that revives
  no ended job is absorbed by the purge after it (`purge_mapJobs_purge`).
-/
import PrinterConsole.Jobs.Queue

namespace PrinterConsole

/-- The job has ended: it is not `isActive`. -/
def Job.isEnded (j : Job) : Bool := !j.isActive

namespace JobQueue

/-- Of jobs from the newest on, the active ones and the first `n` ended ones. -/
def kept : Nat → List Job → List Job
  | _, [] => []
  | n, j :: js =>
    if j.isActive then j :: kept n js
    else
      match n with
      | 0 => kept 0 js
      | m + 1 => j :: kept m js

theorem kept_cons_active {j : Job} (h : j.isActive = true) (n : Nat) (js : List Job) :
    kept n (j :: js) = j :: kept n js := by
  simp [kept, h]

theorem kept_zero_cons_ended {j : Job} (h : j.isActive = false) (js : List Job) :
    kept 0 (j :: js) = kept 0 js := by
  simp [kept, h]

theorem kept_succ_cons_ended {j : Job} (h : j.isActive = false) (n : Nat) (js : List Job) :
    kept (n + 1) (j :: js) = j :: kept n js := by
  simp [kept, h]

/-! ## Which jobs the pass keeps

  `kept` goes through the jobs once and counts the ended ones.  It keeps all active jobs and so many
  ended ones, from the front. -/

/-- No active job is lost in a pass (`kept`). -/
theorem filter_active_kept (n : Nat) (js : List Job) :
    (kept n js).filter Job.isActive = js.filter Job.isActive := by
  induction js generalizing n with
  | nil => rfl
  | cons j js ih =>
    cases hj : j.isActive with
    | true =>
      rw [kept_cons_active hj, List.filter_cons_of_pos hj, List.filter_cons_of_pos hj, ih]
    | false =>
      have hn : ¬ j.isActive = true := by simp [hj]
      cases n with
      | zero => rw [kept_zero_cons_ended hj, List.filter_cons_of_neg hn, ih]
      | succ m =>
        rw [kept_succ_cons_ended hj, List.filter_cons_of_neg hn, List.filter_cons_of_neg hn, ih]

/-- Of the ended jobs the first `n` stay, the newest ones. -/
theorem filter_ended_kept (n : Nat) (js : List Job) :
    (kept n js).filter Job.isEnded = (js.filter Job.isEnded).take n := by
  induction js generalizing n with
  | nil => simp [kept]
  | cons j js ih =>
    cases hj : j.isActive with
    | true =>
      have hn : ¬ j.isEnded = true := by simp [Job.isEnded, hj]
      rw [kept_cons_active hj, List.filter_cons_of_neg hn, List.filter_cons_of_neg hn, ih]
    | false =>
      have he : j.isEnded = true := by simp [Job.isEnded, hj]
      cases n with
      | zero => rw [kept_zero_cons_ended hj, ih, List.take_zero, List.take_zero]
      | succ m =>
        rw [kept_succ_cons_ended hj, List.filter_cons_of_pos he, List.filter_cons_of_pos he,
          List.take_succ_cons, ih]

/-- **Absorption.** A pass (`kept`), a change `f` that revives no ended job, and a pass with no
    larger allowance keep what the change and the last pass keep.  Induction on the jobs: an ended
    job that the first pass drops meets an empty allowance in the last one too, since the allowance
    of the last pass never overtakes that of the first. -/
theorem kept_map_kept {f : Job → Job} {js : List Job}
    (hf : ∀ j ∈ js, j.isActive = false → (f j).isActive = false) {n m : Nat} (h : n ≤ m) :
    kept n ((kept m js).map f) = kept n (js.map f) := by
  induction js generalizing n m with
  | nil => rfl
  | cons j js ih =>
    have hjs : ∀ j ∈ js, j.isActive = false → (f j).isActive = false :=
      fun i hi => hf i (List.mem_cons_of_mem j hi)
    have ih := fun {n m : Nat} (h : n ≤ m) => ih hjs h
    -- whatever became of `j`, both sides treat it alike once it stands at their head
    have hstep : ∀ {b : Nat}, n - 1 ≤ b → ((f j).isActive = true → n ≤ b) →
        kept n (f j :: (kept b js).map f) = kept n (f j :: js.map f) := by
      intro b hb hact
      cases hfj : (f j).isActive with
      | true => rw [kept_cons_active hfj, kept_cons_active hfj, ih (hact hfj)]
      | false =>
        cases n with
        | zero => rw [kept_zero_cons_ended hfj, kept_zero_cons_ended hfj, ih (Nat.zero_le b)]
        | succ k => rw [kept_succ_cons_ended hfj, kept_succ_cons_ended hfj, ih (by omega)]
    cases hj : j.isActive with
    | true =>
      rw [kept_cons_active hj, List.map_cons, List.map_cons]
      exact hstep (by omega) fun _ => h
    | false =>
      have hfj := hf j List.mem_cons_self hj
      cases m with
      | zero =>
        obtain rfl : n = 0 := by omega
        rw [kept_zero_cons_ended hj, List.map_cons, kept_zero_cons_ended hfj, ih (Nat.le_refl 0)]
      | succ k =>
        rw [kept_succ_cons_ended hj, List.map_cons, List.map_cons]
        exact hstep (by omega) fun ha => by simp [hfj] at ha

/-! ## A purge is such a pass

  The purge looks up the numbers of what is in excess; with numbers that are all different, that is
  the pass from the other end. -/

/-- Taking the ended jobs beyond the first `n` out by their number is the pass, if no two jobs share
    a number. -/
theorem filter_beyond_eq_kept {js : List Job} (h : (js.map Job.id).Nodup) (n : Nat) :
    js.filter (fun j => !((js.filter Job.isEnded).drop n).any fun e => e.id == j.id) =
      kept n js := by
  induction js generalizing n with
  | nil => rfl
  | cons j js ih =>
    rw [List.map_cons, List.nodup_cons] at h
    obtain ⟨hj, hjs⟩ := h
    have hne : ∀ i ∈ js, (i.id == j.id) = false := by
      intro i hi
      have : i.id ≠ j.id := fun he => hj (he ▸ List.mem_map_of_mem hi)
      simpa using this
    -- the first job has an id of its own, so none of the rest makes it go
    have hsub : ∀ k, ∀ e ∈ (js.filter Job.isEnded).drop k, e ∈ js := fun k e he =>
      (List.mem_filter.mp (List.mem_of_mem_drop he)).1
    have hnone : ∀ k, (((js.filter Job.isEnded).drop k).any fun e => e.id == j.id) = false := by
      intro k
      rw [List.any_eq_false]
      intro e he
      simp [hne e (hsub k e he)]
    cases ha : j.isActive with
    | true =>
      have hn : ¬ j.isEnded = true := by simp [Job.isEnded, ha]
      rw [kept_cons_active ha, List.filter_cons_of_neg hn, List.filter_cons_of_pos, ih hjs]
      simp [hnone]
    | false =>
      have he : j.isEnded = true := by simp [Job.isEnded, ha]
      cases n with
      | zero =>
        rw [kept_zero_cons_ended ha, List.filter_cons_of_pos he, List.drop_zero,
          List.filter_cons_of_neg (by simp), ← ih hjs 0, List.drop_zero]
        apply List.filter_congr
        intro i hi
        have : (j.id == i.id) = false := by
          rw [Bool.beq_comm]; exact hne i hi
        simp [this]
      | succ m =>
        rw [kept_succ_cons_ended ha, List.filter_cons_of_pos he, List.drop_succ_cons,
          List.filter_cons_of_pos (by simp [hnone]), ih hjs]

/-- The ended jobs beyond the limit (`excess`), from the newest on. -/
theorem reverse_excess (q : JobQueue) :
    q.excess.reverse = (q.jobs.reverse.filter Job.isEnded).drop q.limit.toNat := by
  have he : q.ended = q.jobs.filter Job.isEnded := rfl
  rw [excess, List.filter_reverse, ← he, List.reverse_take]
  rcases Nat.le_total q.ended.length q.limit.toNat with hle | hle
  · rw [List.drop_eq_nil_of_le, List.drop_eq_nil_of_le] <;> rw [List.length_reverse] <;> omega
  · rw [show q.ended.length - (q.ended.length - q.limit : Int).toNat = q.limit.toNat by omega]

/-- **A purge is one pass over the jobs from the newest on** (`kept`), with the limit as its
    allowance. -/
theorem jobs_purge {q : JobQueue} (h : (q.jobs.map Job.id).Nodup) :
    q.purge.jobs = (kept q.limit.toNat q.jobs.reverse).reverse := by
  have hr : (q.jobs.reverse.map Job.id).Nodup := by
    rw [List.map_reverse]; exact List.pairwise_reverse.mpr (h.imp Ne.symm)
  rw [← filter_beyond_eq_kept hr, ← reverse_excess, List.filter_reverse, List.reverse_reverse]
  simp only [purge, List.any_reverse]

/-- The queue with every job changed by `f`. -/
def mapJobs (q : JobQueue) (f : Job → Job) : JobQueue := { q with jobs := q.jobs.map f }

/-- **A purge before a change is absorbed by the purge after it**, if the change `f` keeps the
    numbers and revives no ended job. -/
theorem purge_mapJobs_purge {q : JobQueue} {f : Job → Job} (h : (q.jobs.map Job.id).Nodup)
    (hid : ∀ j, (f j).id = j.id) (hf : ∀ j ∈ q.jobs, j.isActive = false → (f j).isActive = false) :
    (q.purge.mapJobs f).purge = (q.mapJobs f).purge := by
  have hcomp : Job.id ∘ f = Job.id := funext hid
  have hmap : ((q.mapJobs f).jobs.map Job.id).Nodup := by
    simpa [mapJobs, hcomp] using h
  have hmapPurge : ((q.purge.mapJobs f).jobs.map Job.id).Nodup := by
    have hsub : (q.purge.jobs.map Job.id).Sublist (q.jobs.map Job.id) :=
      List.filter_sublist.map Job.id
    simpa [mapJobs, hcomp] using h.sublist hsub
  have hf' : ∀ j ∈ q.jobs.reverse, j.isActive = false → (f j).isActive = false :=
    fun j hj => hf j (List.mem_reverse.mp hj)
  have hjobs : (q.purge.mapJobs f).purge.jobs = (q.mapJobs f).purge.jobs := by
    rw [jobs_purge hmap, jobs_purge hmapPurge]
    show (kept q.limit.toNat (q.purge.jobs.map f).reverse).reverse =
      (kept q.limit.toNat (q.jobs.map f).reverse).reverse
    rw [jobs_purge h, ← List.map_reverse, List.reverse_reverse, ← List.map_reverse,
      kept_map_kept hf' (Nat.le_refl _)]
  show ({ (q.mapJobs f).purge with jobs := (q.purge.mapJobs f).purge.jobs } : JobQueue) = _
  rw [hjobs]

end JobQueue

end PrinterConsole
