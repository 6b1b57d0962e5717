/-
  What the records of jobs say.

  A job has a state, a mark that canceling was asked for, and three times.  Four operations write
  them, each under a condition of its own, and a job that has ended may be begun or ended again.
  Nevertheless the record stays coherent (`Job.Coherent`): a job that runs has a time when it
  began, one that has ended has a time when it ended, which is the latest of its times, and a mark
  is found only on a job that runs or was canceled.

  Two things are asked of a run: jobs are ended only in ways to end (`Op.EndsProperly`), and the
  clock does not go back.  The second enters the induction as a bound: at each step no time of a
  record lies after the time of the step (`Job.NotAfter`).  Each of the four operations keeps the
  two together (`coherent_started`, `coherent_stopped`, `coherent_finished`, `coherent_canceled`).

  Main statement: every record of every such run is coherent, the time when a job began never
  changes, and every row of the job table shows a time (`records_of_run`).
-/
import PrinterConsole.Proofs.Number.Whole
import PrinterConsole.Proofs.Queue.CancelFinal

namespace PrinterConsole

/-! ## Times of day -/

namespace Instant

open PrinterConsole.Number

/-- A number below a hundred is written in two digits, the first of them a zero if need be. -/
theorem length_twoDigits {n : Nat} (h : n < 100) : (twoDigits n).length = 2 := by
  have hlen : (natText n).length = (Nat.toDigits 10 n).length := by
    rw [← String.length_toList, toList_natText]
  have hpos : 0 < (Nat.toDigits 10 n).length := Nat.length_toDigits_pos
  have hone : (Nat.toDigits 10 n).length ≤ 1 ↔ n < 10 ^ 1 :=
    Nat.length_toDigits_le_iff (by decide) (by decide)
  have htwo : (Nat.toDigits 10 n).length ≤ 2 ↔ n < 10 ^ 2 :=
    Nat.length_toDigits_le_iff (by decide) (by decide)
  unfold twoDigits
  split
  · rw [String.length_append, hlen, show "0".length = 1 from rfl]
    omega
  · omega

/-- The time of day has three numbers of two digits, with two colons between. -/
theorem length_clockText (t : Instant) : t.clockText.length = 8 := by
  have hday : t.secondOfDay < 86400 := by
    unfold secondOfDay
    omega
  have hhour := length_twoDigits (n := t.secondOfDay / 3600) (by omega)
  have hminute := length_twoDigits (n := t.secondOfDay / 60 % 60) (by omega)
  have hsecond := length_twoDigits (n := t.secondOfDay % 60) (by omega)
  simp only [clockText, String.length_append, hhour, hminute, hsecond]
  rfl

end Instant

/-! ## Coherent records

  The times of a job are in order, and its state has the times that it needs (`Coherent`).  For the
  step it is also needed that none of them is later than the clock (`NotAfter`). -/

namespace Job

/-- State, mark and times of the job `j` agree. -/
structure Coherent (j : Job) : Prop where
  created : ∃ c, j.created = some c
  /-- A job that runs has begun. -/
  begun : j.state.isRunning = true → ∃ p, j.processing = some p
  /-- A job that has ended tells when, and nothing came later. -/
  ended : j.state.isTerminal = true → ∃ t, j.completed = some t ∧
    (∀ c ∈ j.created, c.seconds ≤ t.seconds) ∧ ∀ p ∈ j.processing, p.seconds ≤ t.seconds
  /-- A job was created before it began. -/
  inOrder : ∀ c ∈ j.created, ∀ p ∈ j.processing, c.seconds ≤ p.seconds
  /-- Only a job that runs or was canceled is marked. -/
  marked : j.isCanceled = true → j.state.isRunning = true ∨ j.state = .canceled

/-- The job was neither created nor begun after the time `now`. -/
structure NotAfter (now : Instant) (j : Job) : Prop where
  created : ∀ c ∈ j.created, c.seconds ≤ now.seconds
  processing : ∀ p ∈ j.processing, p.seconds ≤ now.seconds

theorem NotAfter.mono {t now : Instant} (h : t.seconds ≤ now.seconds) {j : Job}
    (hj : j.NotAfter t) : j.NotAfter now where
  created := fun c hc => Int.le_trans (hj.created c hc) h
  processing := fun p hp => Int.le_trans (hj.processing p hp) h

/-! ## What a row shows

  A row shows the latest of the times that are set, which the state decides on. -/

/-- The time that the row of a job shows, by its `state`. -/
def shownTime (j : Job) : Option Instant :=
  match j.state with
  | .pending | .held => j.created
  | .processing | .stopped => j.processing
  | .canceled | .aborted | .completed => j.completed

/-- What the row of a job says has happened at that time (`shownTime`). -/
def happened (j : Job) : String :=
  match j.state with
  | .pending | .held => "Queued"
  | .processing | .stopped => if j.isCanceled then "Canceling" else "Started"
  | .canceled => "Canceled"
  | .aborted => "Aborted"
  | .completed => "Completed"

theorem whenText_eq {j : Job} {t : Instant} (h : j.shownTime = some t) :
    j.whenText = j.happened ++ " at " ++ t.clockText := by
  have hclock : clock j.shownTime = t.clockText := by rw [h]; rfl
  rw [← hclock]
  unfold whenText happened shownTime
  cases j.state <;> cases j.isCanceled <;> rfl

/-- A `Coherent` job has the time that its row shows. -/
theorem Coherent.exists_shownTime {j : Job} (h : j.Coherent) : ∃ t, j.shownTime = some t := by
  obtain ⟨c, hc⟩ := h.created
  unfold shownTime
  split
  · exact ⟨c, hc⟩
  · exact ⟨c, hc⟩
  all_goals rename_i hs
  · exact h.begun (by rw [hs]; rfl)
  · exact h.begun (by rw [hs]; rfl)
  all_goals
    obtain ⟨t, ht, -⟩ := h.ended (by rw [hs]; rfl)
    exact ⟨t, ht⟩

end Job

namespace JobQueue

/-! ## One step

  Each change sets one time at most, to the time of the clock.  A second start leaves the processing
  time alone. -/

section

variable {now : Instant} {j : Job}

/-- A start sets the processing time if there is none yet, and later than everything noted so
    far. -/
theorem coherent_started (h : j.Coherent) (hnow : j.NotAfter now) :
    (started now j).Coherent ∧ (started now j).NotAfter now := by
  have hp : ∀ p ∈ (started now j).processing, p.seconds ≤ now.seconds ∧
      ∀ c ∈ j.created, c.seconds ≤ p.seconds := by
    intro p hp
    cases hb : j.processing with
    | none =>
      obtain rfl : now = p := by simpa [started, hb] using hp
      exact ⟨Int.le_refl _, hnow.created⟩
    | some p' =>
      obtain rfl : p' = p := by simpa [started, hb] using hp
      exact ⟨hnow.processing p' hb, fun c hc => h.inOrder c hc p' hb⟩
  refine ⟨⟨h.created, fun _ => ⟨_, rfl⟩, fun he => ?_, fun c hc p hpm => (hp p hpm).2 c hc,
    fun _ => .inl rfl⟩, ⟨hnow.created, fun p hpm => (hp p hpm).1⟩⟩
  cases he

/-- Stopping sets no time, so none can be out of order. -/
theorem coherent_stopped (h : j.Coherent) (hnow : j.NotAfter now) :
    (stopped j).Coherent ∧ (stopped j).NotAfter now := by
  unfold stopped
  split
  · rename_i hs
    have hrun : j.state.isRunning = true := by rw [hs]; rfl
    refine ⟨⟨h.created, fun _ => h.begun hrun, fun he => ?_, h.inOrder, fun _ => .inl rfl⟩,
      ⟨hnow.1, hnow.2⟩⟩
    cases he
  · exact ⟨h, hnow⟩

/-- An end needs a state that is one (`hstate`); its time is the latest of all. -/
theorem coherent_finished {state : JobState} (hstate : state.isTerminal = true) (h : j.Coherent)
    (hnow : j.NotAfter now) :
    (finished now state j).Coherent ∧ (finished now state j).NotAfter now := by
  have hend : (finished now state j).state.isTerminal = true := by
    unfold finished
    dsimp only
    split
    · rfl
    · exact hstate
  refine ⟨⟨h.created, fun hr => ?_, fun _ => ⟨now, rfl, hnow.created, hnow.processing⟩, h.inOrder,
    fun hm => .inr ?_⟩, ⟨hnow.1, hnow.2⟩⟩
  · generalize (finished now state j).state = s at hend hr
    cases s <;> cases hend <;> cases hr
  · have hm' : j.isCanceled = true := hm
    simp [finished, hm']

/-- A job that waits gets its end with the cancellation; one that is processed is only marked. -/
theorem coherent_canceled (h : j.Coherent) (hnow : j.NotAfter now) :
    (canceled now j).Coherent ∧ (canceled now j).NotAfter now := by
  unfold canceled canceled?
  split
  · -- a waiting job ends
    refine ⟨⟨h.created, fun hr => ?_, fun _ => ⟨now, rfl, hnow.created, hnow.processing⟩, h.inOrder,
      fun _ => .inr rfl⟩, ⟨hnow.1, hnow.2⟩⟩
    cases hr
  · split
    · -- a running job is marked
      rename_i hr
      have hrun : j.state.isRunning = true := by
        rw [Bool.and_eq_true] at hr
        exact hr.1
      exact ⟨⟨h.created, h.begun, h.ended, h.inOrder, fun _ => .inl hrun⟩, ⟨hnow.1, hnow.2⟩⟩
    · exact ⟨h, hnow⟩

/-- **A step keeps records coherent**, if it ends jobs properly and comes after all that the record
    tells (`NotAfter`). -/
theorem coherent_effect {op : Op} (hop : op.EndsProperly) (h : j.Coherent)
    (hnow : j.NotAfter now) : (op.effect now j).Coherent ∧ (op.effect now j).NotAfter now := by
  unfold Op.effect
  split
  · cases op with
    | create => exact ⟨h, hnow⟩
    | start => exact coherent_started h hnow
    | stop => exact coherent_stopped h hnow
    | impressions id n =>
      exact ⟨⟨h.created, h.begun, h.ended, h.inOrder, h.marked⟩, ⟨hnow.1, hnow.2⟩⟩
    | finish id state => exact coherent_finished hop h hnow
    | cancel | cancelAll => exact coherent_canceled h hnow
  · exact ⟨h, hnow⟩

/-- A job that is added is `Coherent`, and created at the time of the step. -/
theorem coherent_added {q : JobQueue} {op : Op} (h : j ∈ op.added q now) :
    j.Coherent ∧ j.NotAfter now := by
  cases op with
  | create name owner held =>
    rw [Op.added, List.mem_singleton] at h
    subst h
    refine ⟨⟨⟨now, rfl⟩, fun hr => ?_, fun he => ?_, fun c _ p hp => ?_, fun hm => ?_⟩, ⟨?_, ?_⟩⟩
    · cases held <;> cases hr
    · cases held <;> cases he
    · cases hp
    · cases hm
    · intro c hc
      cases hc
      exact Int.le_refl _
    · intro p hp
      cases hp
  | _ => exact absurd h (by simp [Op.added])

/-- **When a job began never changes**, whatever is done with it: `processing` is set once. -/
theorem processing_effect {p : Instant} (op : Op) (h : j.processing = some p) :
    (op.effect now j).processing = some p := by
  unfold Op.effect
  split
  · cases op with
    | create | impressions | finish => exact h
    | start => simp [Op.change, started, h]
    | stop =>
      simp only [Op.change, stopped]
      split <;> exact h
    | cancel | cancelAll =>
      simp only [Op.change, canceled, canceled?]
      split
      · exact h
      · split <;> exact h
  · exact h

end

/-! ## Runs

  The clock may stand still but does not go back; so what is not after one moment is not after the
  next. -/

/-- **A run keeps records `Coherent`.** Induction on the run: no record tells of a time after any of
    the steps that are still to come, because the clock does not go back. -/
theorem coherent_afterAll {q : JobQueue} (hq : q.WellFormed) {es : List (Instant × Op)}
    (hes : ∀ e ∈ es, e.2.EndsProperly) (hclock : es.Pairwise fun e f => e.1.seconds ≤ f.1.seconds)
    (h : ∀ j ∈ q.jobs, j.Coherent ∧ ∀ e ∈ es, j.NotAfter e.1) :
    ∀ j ∈ (q.afterAll es).jobs, j.Coherent := by
  induction es generalizing q with
  | nil => exact fun j hj => (h j hj).1
  | cons e es ih =>
    obtain ⟨hnext, hclock⟩ := List.pairwise_cons.mp hclock
    refine ih (hq.after e.1 e.2) (fun f hf => hes f (List.mem_cons_of_mem e hf)) hclock
      fun j hj => ?_
    have hstep : j.Coherent ∧ j.NotAfter e.1 := by
      rcases mem_after hq hj with ⟨i, hi, rfl⟩ | hadd
      · obtain ⟨hi, hnow⟩ := h i hi
        exact coherent_effect (hes e List.mem_cons_self) hi (hnow e List.mem_cons_self)
      · exact coherent_added hadd
    exact ⟨hstep.1, fun f hf => hstep.2.mono (hnext f hf)⟩

/-- **The records of a run.** For every `limit` and every run from an empty queue that ends jobs
    properly and whose clock does not go back: every record is `Job.Coherent`, when a job began
    stays as it was noted first, and every row of the job table ends in a time that the record
    has. -/
theorem records_of_run (limit : Int) {es : List (Instant × Op)}
    (hes : ∀ e ∈ es, e.2.EndsProperly)
    (hclock : es.Pairwise fun e f => e.1.seconds ≤ f.1.seconds) :
    let empty : JobQueue := { limit := limit }
    let q := empty.afterAll es
    (∀ j ∈ q.jobs, j.Coherent) ∧
      (∀ before, before <+: es → ∀ i ∈ (empty.afterAll before).jobs, ∀ j ∈ q.jobs, j.id = i.id →
        ∀ p, i.processing = some p → j.processing = some p) ∧
      ∀ row ∈ q.newestFirst.map Job.row, ∃ j ∈ q.jobs, j.row = row ∧
        ∃ t, j.shownTime = some t ∧ row.whenText = j.happened ++ " at " ++ t.clockText ∧
          t.clockText.length = 8 := by
  intro empty q
  have hw := wellFormed_empty limit
  have hcoherent : ∀ j ∈ q.jobs, j.Coherent :=
    coherent_afterAll hw hes hclock fun j hj => by cases hj
  refine ⟨hcoherent, ?_, ?_⟩
  · rintro before ⟨rest, rfl⟩ i hi j hj hid p hp
    have hbefore : (empty.afterAll before).WellFormed := hw.afterAll before
    have hfirst : (empty.afterAll before).find? i.id = some i :=
      (find?_eq_some_iff hbefore).mpr ⟨hi, rfl⟩
    have hlast : ((empty.afterAll before).afterAll rest).find? i.id = some j := by
      rw [← afterAll_append]
      exact (find?_eq_some_iff (hw.afterAll _)).mpr ⟨hj, hid⟩
    -- no operation changes a processing time once it is there
    have hfound : ∀ k, (empty.afterAll before).find? i.id = some k → k.processing = some p := by
      intro k hk
      obtain rfl : i = k := Option.some.inj (hfirst.symm.trans hk)
      exact hp
    exact forall_find?_afterAll hbefore (hbefore.numbered i hi).2
      (fun e _ _ => processing_effect e.2) hfound j hlast
  · intro row hrow
    obtain ⟨j, hj, rfl⟩ := List.mem_map.mp hrow
    have hj' : j ∈ q.jobs := List.mem_reverse.mp hj
    obtain ⟨t, ht⟩ := (hcoherent j hj').exists_shownTime
    exact ⟨j, hj', rfl, t, ht, Job.whenText_eq ht, t.length_clockText⟩

/-- A job that is begun, stopped, ended, begun again, canceled and ended as canceled. -/
theorem records_of_run_begun_twice :
    let es : List (Instant × Op) := [(⟨0⟩, .create "a" "x" false), (⟨5⟩, .start 1), (⟨5⟩, .stop 1),
      (⟨9⟩, .finish 1 .completed), (⟨9⟩, .start 1), (⟨12⟩, .cancel 1), (⟨20⟩, .finish 1 .aborted)]
    let q := ({} : JobQueue).afterAll es
    (∀ e ∈ es, e.2.EndsProperly) ∧ (es.Pairwise fun e f => e.1.seconds ≤ f.1.seconds) ∧
      ∀ j ∈ q.jobs, j.Coherent ∧ (j.id = 1 → j.processing = some ⟨5⟩) := by
  intro es q
  have hes : ∀ e ∈ es, e.2.EndsProperly := by simp [es, Op.EndsProperly, JobState.isTerminal]
  have hclock : es.Pairwise fun e f => e.1.seconds ≤ f.1.seconds := by decide
  obtain ⟨hcoherent, hbegun, -⟩ := records_of_run 100 hes hclock
  refine ⟨hes, hclock, fun j hj => ⟨hcoherent j hj, fun hid => ?_⟩⟩
  -- the time is noted by the second step
  let begun : Job := ⟨1, "a", "x", .processing, 0, false, some ⟨0⟩, some ⟨5⟩, none⟩
  exact hbegun (es.take 2) (List.take_prefix 2 es) begun (by decide) j hj hid ⟨5⟩ rfl

end JobQueue

end PrinterConsole
