/-
  Steps of the job queue.

  An operation is split into what it does to each job (`Op.effect`), the job that it adds
  (`Op.added`), and the purge that ends it.  The first two are told here without the queue's own
  functions: `changed` puts them together, and `after_eq` says that the operation is that change
  and a purge.

  Operations that do not purge fit in as well: in a well-formed queue no ended job is beyond the
  limit, so that a purge would change nothing (`purge_changed_eq_self`).  An operation that fails
  leaves the queue as it was, and that too is the effect on the jobs, since there is no job it is
  about (`changed_eq_self`).

  What is proved of `Op.effect` for one job thus holds of a step, and by induction of a run
  (`forall_afterAll`); this is how the invariants of the other modules are carried along.

  Main statements: every step is a change followed by a purge (`after_eq`), an operation fails
  exactly if it is about a job that is not there (`run_of_unknown`, `run_of_known`), what it
  answers depends on the job alone (`run_of_find?`), and all runs from an empty queue stay
  well-formed (`Reachable.wellFormed`).
-/
import Mathlib.Data.List.Nodup
import PrinterConsole.Proofs.Queue.Purge

namespace PrinterConsole.JobQueue

/-! ## What an operation does to each job

  Without the queue's own functions: which jobs an operation concerns, what it makes of each, and
  which job it adds. -/

namespace Op

/-- The number of the job that an operation is about; a `create` and a `cancelAll` are about
    none. -/
def id? : Op → Option Int
  | .start id | .stop id | .impressions id _ | .finish id _ | .cancel id => some id
  | .create .. | .cancelAll => none

/-- The operation may change the job: it is the one it is about (`id?`), or one of all active
    ones. -/
def concerns : Op → Job → Bool
  | .cancelAll, j => j.isActive
  | op, j => op.id? == some j.id

/-- What an operation makes of a job that it `concerns`. -/
def change (now : Instant) : Op → Job → Job
  | .start _ => started now
  | .stop _ => stopped
  | .impressions _ n => fun j => { j with impressions := n }
  | .finish _ state => finished now state
  | .cancel _ | .cancelAll => canceled now
  | .create .. => id

/-- What an operation makes of a job, which it may not be concerned with (`concerns`). -/
def effect (now : Instant) (op : Op) (j : Job) : Job :=
  if op.concerns j then op.change now j else j

/-- What an operation answers (`Answer`) about the job that it is about. -/
def answer (now : Instant) : Op → Job → Answer
  | .cancel _, j => .flag (canceled? now j).isSome
  | _, _ => .done

/-- The jobs that an operation adds to a queue: a `create` adds one, with the next number `nextId`,
    waiting or held, and with `created` as its only time. -/
def added (q : JobQueue) (now : Instant) : Op → List Job
  | .create name owner held =>
    [{ id := q.nextId
       name := name
       owner := owner
       state := if held then .held else .pending
       created := some now }]
  | _ => []

end Op

@[simp] theorem id_started (now : Instant) (j : Job) : (started now j).id = j.id := rfl

@[simp] theorem id_finished (now : Instant) (s : JobState) (j : Job) :
    (finished now s j).id = j.id := rfl

@[simp] theorem id_stopped (j : Job) : (stopped j).id = j.id := by
  unfold stopped; split <;> rfl

@[simp] theorem id_canceled (now : Instant) (j : Job) : (canceled now j).id = j.id := by
  unfold canceled canceled?
  split
  · rfl
  · split <;> rfl

@[simp] theorem id_change (now : Instant) (op : Op) (j : Job) : (op.change now j).id = j.id := by
  cases op <;> simp [Op.change]

@[simp] theorem id_effect (now : Instant) (op : Op) (j : Job) : (op.effect now j).id = j.id := by
  unfold Op.effect; split
  · exact id_change now op j
  · rfl

theorem effect_of_not_concerns {now : Instant} {op : Op} {j : Job} (h : op.concerns j = false) :
    op.effect now j = j := by
  simp [Op.effect, h]

/-- A job that an operation adds has the next number (`nextId`) and is active. -/
theorem mem_added {q : JobQueue} {now : Instant} {op : Op} {j : Job} (h : j ∈ Op.added q now op) :
    j.id = q.nextId ∧ j.isActive = true := by
  cases op with
  | create name owner held =>
    rw [Op.added, List.mem_singleton] at h
    subst h
    cases held <;> exact ⟨rfl, rfl⟩
  | _ => exact absurd h (by simp [Op.added])

/-- The queue with its jobs changed by an operation (`Op.effect`) and the new ones added, before
    ended jobs are purged. -/
def changed (q : JobQueue) (now : Instant) (op : Op) : JobQueue :=
  { q with
    jobs := q.jobs.map (op.effect now) ++ op.added q now
    nextId := q.nextId + (op.added q now).length }

/-! ## Runs

  An operation that fails leaves the queue as it is, so a run goes on with any operations
  whatever. -/

/-- The queue after an operation (`run`); one that fails leaves it as it was. -/
def after (q : JobQueue) (now : Instant) (op : Op) : JobQueue :=
  match q.run now op with
  | .ok (_, q') => q'
  | .error _ => q

/-- The queue after the run `es` of operations, each at its time. -/
def afterAll (q : JobQueue) (es : List (Instant × Op)) : JobQueue :=
  es.foldl (fun q e => q.after e.1 e.2) q

@[simp] theorem afterAll_nil (q : JobQueue) : q.afterAll [] = q := rfl

@[simp] theorem afterAll_cons (q : JobQueue) (e : Instant × Op) (es : List (Instant × Op)) :
    q.afterAll (e :: es) = (q.after e.1 e.2).afterAll es := rfl

theorem afterAll_append (q : JobQueue) (es fs : List (Instant × Op)) :
    q.afterAll (es ++ fs) = (q.afterAll es).afterAll fs := List.foldl_append

/-- Some run from an empty queue, with any limit, leads to the queue `q`. -/
def Reachable (q : JobQueue) : Prop :=
  ∃ (limit : Int) (es : List (Instant × Op)), ({ limit := limit } : JobQueue).afterAll es = q

/-- Numbers ascend, each was given out, and no ended job is beyond the `limit`. -/
structure WellFormed (q : JobQueue) : Prop where
  ascending : q.jobs.Pairwise fun i j => i.id < j.id
  numbered : ∀ j ∈ q.jobs, 1 ≤ j.id ∧ j.id < q.nextId
  positive : 1 ≤ q.nextId
  bounded : q.ended.length ≤ q.limit.toNat

/-! ## Numbers in a well-formed queue

  Jobs are in the order of their numbers, so a number has one job at most, and a search by number
  finds it. -/

theorem nodup_of_ascending {js : List Job} (h : js.Pairwise fun i j => i.id < j.id) :
    (js.map Job.id).Nodup := by
  rw [List.Nodup, List.pairwise_map]
  exact h.imp fun hlt => Int.ne_of_lt hlt

theorem eq_of_id_eq {js : List Job} (h : js.Pairwise fun i j => i.id < j.id) {i j : Job}
    (hi : i ∈ js) (hj : j ∈ js) (he : i.id = j.id) : i = j :=
  List.inj_on_of_nodup_map (nodup_of_ascending h) hi hj he

/-- In a well-formed queue `find?` finds every listed job by its number. -/
theorem find?_eq_some_iff {q : JobQueue} (h : q.WellFormed) {id : Int} {j : Job} :
    q.find? id = some j ↔ j ∈ q.jobs ∧ j.id = id := by
  constructor
  · intro hf
    exact ⟨List.mem_of_find?_eq_some hf, by simpa using List.find?_some hf⟩
  · rintro ⟨hj, rfl⟩
    cases hf : q.find? j.id with
    | none =>
      have := List.find?_eq_none.mp hf j hj
      simp at this
    | some i =>
      have hi := List.mem_of_find?_eq_some hf
      have he : i.id = j.id := by simpa using List.find?_some hf
      rw [eq_of_id_eq h.ascending hi hj he]

theorem find?_eq_none_iff {q : JobQueue} {id : Int} :
    q.find? id = none ↔ ∀ j ∈ q.jobs, j.id ≠ id := by
  simp [find?, List.find?_eq_none]

/-! ## Purging in a well-formed queue

  A purge takes away ended jobs only, and the oldest of them. -/

theorem ended_eq (q : JobQueue) : q.ended = q.jobs.filter Job.isEnded := rfl

@[simp] theorem limit_purge (q : JobQueue) : q.purge.limit = q.limit := rfl

@[simp] theorem nextId_purge (q : JobQueue) : q.purge.nextId = q.nextId := rfl

theorem purge_sublist (q : JobQueue) : q.purge.jobs.Sublist q.jobs := List.filter_sublist

/-- Nothing is purged as long as no ended job is beyond the `limit`. -/
theorem purge_eq_self {q : JobQueue} (h : q.ended.length ≤ q.limit.toNat) : q.purge = q := by
  have he : q.excess = [] := by
    rw [excess]
    rcases Int.lt_or_le q.limit 0 with hl | hl
    · have : q.ended.length = 0 := by omega
      rw [List.length_eq_zero_iff.mp this, List.take_nil]
    · rw [show (q.ended.length - q.limit : Int).toNat = 0 by omega, List.take_zero]
  simp [purge, he]

/-- A purge keeps the `active` jobs, all of them and in their order. -/
theorem active_purge {q : JobQueue} (h : (q.jobs.map Job.id).Nodup) :
    q.purge.active = q.active := by
  rw [active, active, jobs_purge h, List.filter_reverse, filter_active_kept, List.filter_reverse,
    List.reverse_reverse]

/-- A purge takes away the oldest ended jobs, down to the `limit`. -/
theorem ended_purge {q : JobQueue} (h : (q.jobs.map Job.id).Nodup) :
    q.purge.ended = q.ended.drop (q.ended.length - q.limit.toNat) := by
  rw [ended_eq, jobs_purge h, List.filter_reverse, filter_ended_kept, List.filter_reverse,
    List.reverse_take, List.reverse_reverse, List.length_reverse, ended_eq]

/-! ## Every step is a change and a purge

  Some operations purge and some do not, some fail and some answer.  All that is gone here: whatever
  the operation, the queue after it is `changed` and then purged. -/

/-- A change `f` of active jobs into active ones does not let ended jobs come up. -/
theorem length_ended_map_le {js : List Job} {f : Job → Job}
    (h : ∀ j ∈ js, j.isActive = true → (f j).isActive = true) :
    ((js.map f).filter Job.isEnded).length ≤ (js.filter Job.isEnded).length := by
  rw [← List.countP_eq_length_filter, ← List.countP_eq_length_filter, List.countP_map]
  refine List.countP_mono_left fun j hj he => ?_
  -- a job that is ended after the change was ended before
  cases ha : j.isActive with
  | true => simp [Job.isEnded, h j hj ha] at he
  | false => simp [Job.isEnded, ha]

theorem concerns_of_id? {op : Op} {id : Int} (h : op.id? = some id) (j : Job) :
    op.concerns j = (j.id == id) := by
  have hb : (op.id? == some j.id) = (j.id == id) := by
    rw [h, Bool.beq_comm]; rfl
  cases op <;> first | exact hb | simp [Op.id?] at h

theorem effect_of_id? {op : Op} {id : Int} (now : Instant) (h : op.id? = some id) {j : Job}
    (hj : j.id = id) : op.effect now j = op.change now j := by
  rw [Op.effect, concerns_of_id? h, if_pos (by simp [hj])]

theorem effect_of_ne {op : Op} {id : Int} (now : Instant) (h : op.id? = some id) {j : Job}
    (hj : j.id ≠ id) : op.effect now j = j := by
  apply effect_of_not_concerns
  rw [concerns_of_id? h]
  exact beq_false_of_ne hj

theorem added_of_id? {op : Op} {id : Int} (h : op.id? = some id) (q : JobQueue) (now : Instant) :
    op.added q now = [] := by
  cases op with
  | create => cases h
  | _ => rfl

/-- An operation about one job is an `update` of that job. -/
theorem update_eq_changed {q : JobQueue} {op : Op} {id : Int} (now : Instant)
    (h : op.id? = some id) : q.update id (op.change now) = q.changed now op := by
  have hadd := added_of_id? h q now
  have heff : ∀ j : Job, (if j.id == id then op.change now j else j) = op.effect now j := by
    intro j
    rw [Op.effect, concerns_of_id? h]
  simp only [update, changed, hadd, heff, List.append_nil, List.length_nil]
  simp

theorem get_of_find? {q : JobQueue} {id : Int} {j : Job} (h : q.find? id = some j) :
    q.get id = .ok j := by
  simp [get, h]

theorem isActive_stopped (j : Job) : (stopped j).isActive = j.isActive := by
  unfold stopped
  split
  · rename_i h; simp [Job.isActive, h, JobState.isTerminal]
  · rfl

/-- **An operation about a job that is not there fails with its number** (`Problem.unknownJob`). -/
theorem run_of_unknown {q : JobQueue} {op : Op} {id : Int} (now : Instant) (hid : op.id? = some id)
    (hf : q.find? id = none) : q.run now op = .error (.problem (.unknownJob (.int id))) := by
  have hg : q.get id = .error (.problem (.unknownJob (.int id))) := by simp [get, hf]
  cases op <;> simp only [Op.id?, Option.some.injEq, reduceCtorEq] at hid <;> subst hid <;>
    simp only [run, start, stop, setImpressions, finish, cancel, hg] <;> rfl

/-- A job that has ended cannot be `canceled`. -/
theorem canceled_of_ended (now : Instant) {j : Job} (h : j.isActive = false) :
    canceled now j = j := by
  have hw : j.state.isWaiting = false ∧ j.state.isRunning = false := by
    unfold Job.isActive at h
    cases hs : j.state <;> simp_all [JobState.isTerminal, JobState.isWaiting, JobState.isRunning]
  simp [canceled, canceled?, hw]

/-- The operation ends no job, whatever `state` the job is in. -/
def Op.EndsNothing : Op → Prop
  | .create .. | .start _ | .stop _ | .impressions .. => True
  | _ => False

/-- An operation that ends nothing (`Op.EndsNothing`) leaves an active job active. -/
theorem isActive_effect {op : Op} (h : op.EndsNothing) (now : Instant) {j : Job}
    (hj : j.isActive = true) : (op.effect now j).isActive = true := by
  unfold Op.effect
  split
  · cases op with
    | create => exact hj
    | start => rfl
    | stop => exact (isActive_stopped j).trans hj
    | impressions => exact hj
    | finish | cancel | cancelAll => exact h.elim
  · exact hj

theorem filter_ended_added (q : JobQueue) (now : Instant) (op : Op) :
    (op.added q now).filter Job.isEnded = [] := by
  rw [List.filter_eq_nil_iff]
  intro j hj
  simp [Job.isEnded, (mem_added hj).2]

theorem ended_changed (q : JobQueue) (now : Instant) (op : Op) :
    (q.changed now op).ended = (q.jobs.map (op.effect now)).filter Job.isEnded := by
  rw [ended_eq, changed, List.filter_append, filter_ended_added, List.append_nil]

/-- After a change that ends no job there is nothing to purge (`purge_eq_self`). -/
theorem purge_changed_eq_self {q : JobQueue} (hq : q.WellFormed) (now : Instant) (op : Op)
    (h : op.EndsNothing) : (q.changed now op).purge = q.changed now op := by
  apply purge_eq_self
  rw [ended_changed]
  exact Nat.le_trans (length_ended_map_le fun j _ => isActive_effect h now) hq.bounded

theorem changed_eq_self {q : JobQueue} {now : Instant} {op : Op} (hadd : op.added q now = [])
    (h : ∀ j ∈ q.jobs, op.effect now j = j) : q.changed now op = q := by
  have hmap : q.jobs.map (op.effect now) = q.jobs := by
    rw [List.map_congr_left h, List.map_id']
  simp [changed, hadd, hmap]

/-- A cancel that does not apply (`canceled?`) leaves every job alone. -/
theorem effect_cancel_of_none {q : JobQueue} (hq : q.WellFormed) {now : Instant} {id : Int}
    {j : Job} (hj : q.find? id = some j) (hc : canceled? now j = none) :
    ∀ i ∈ q.jobs, Op.effect now (.cancel id) i = i := by
  intro i hi
  cases hci : Op.concerns (.cancel id) i with
  | false => exact effect_of_not_concerns hci
  | true =>
    have hid : i.id = id := by
      simpa [concerns_of_id? (rfl : Op.id? (.cancel id) = some id)] using hci
    obtain ⟨hjm, hjid⟩ := (find?_eq_some_iff hq).mp hj
    obtain rfl := eq_of_id_eq hq.ascending hi hjm (hid.trans hjid.symm)
    simp [Op.effect, hci, Op.change, canceled, hc]

/-- An operation that ends nothing (`Op.EndsNothing`) succeeds on a job that is there, and nothing
    is purged. -/
theorem run_of_endsNothing {q : JobQueue} (hq : q.WellFormed) (now : Instant) {op : Op} {id : Int}
    (hid : op.id? = some id) (h : op.EndsNothing) {j : Job} (hj : q.find? id = some j) :
    q.run now op = .ok (.done, (q.changed now op).purge) := by
  rw [purge_changed_eq_self hq now op h, ← update_eq_changed now hid]
  cases op with
  | start | stop | impressions =>
    cases hid
    simp only [run, start, stop, setImpressions, get_of_find? hj]
    rfl
  | create => cases hid
  | finish | cancel | cancelAll => exact h.elim

/-- **An operation about a job that is there succeeds**: it answers what that job has it answer
    (`Op.answer`), changes the job and purges the ended ones beyond the limit. -/
theorem run_of_find? {q : JobQueue} (hq : q.WellFormed) (now : Instant) {op : Op} {id : Int}
    (hid : op.id? = some id) {j : Job} (hj : q.find? id = some j) :
    q.run now op = .ok (op.answer now j, (q.changed now op).purge) := by
  cases op with
  | start | stop | impressions => exact run_of_endsNothing hq now hid trivial hj
  | finish =>
    cases hid
    rw [← update_eq_changed now rfl]
    simp only [run, finish, get_of_find? hj]
    rfl
  | cancel =>
    cases hid
    cases hc : canceled? now j with
    | some i =>
      rw [← update_eq_changed now rfl]
      simp only [run, cancel, get_of_find? hj, bind, Except.bind, hc, Op.answer]
      rfl
    | none =>
      -- the job stays as it is, and so does the queue
      rw [changed_eq_self rfl (effect_cancel_of_none hq hj hc), purge_eq_self hq.bounded]
      simp only [run, cancel, get_of_find? hj, bind, Except.bind, hc, Op.answer]
      rfl
  | create | cancelAll => cases hid

/-- **An operation about a job that is there, or about none, succeeds**: it changes the jobs
    (`changed`) and purges the ended ones beyond the limit. -/
theorem run_of_known {q : JobQueue} (hq : q.WellFormed) (now : Instant) {op : Op}
    (h : ∀ id, op.id? = some id → q.find? id ≠ none) :
    ∃ a, q.run now op = .ok (a, (q.changed now op).purge) := by
  cases op with
  | create name owner held =>
    refine ⟨.number q.nextId, ?_⟩
    have hmap : q.jobs.map (Op.effect now (.create name owner held)) = q.jobs :=
      (List.map_congr_left fun j _ => effect_of_not_concerns rfl).trans (List.map_id' _)
    rw [purge_changed_eq_self hq now (.create name owner held) trivial, changed, hmap]
    rfl
  | cancelAll =>
    refine ⟨.number (q.cancelAll now).1, ?_⟩
    have hmap : q.jobs.map (canceled now) = q.jobs.map (Op.effect now .cancelAll) := by
      refine List.map_congr_left fun j _ => ?_
      cases hj : j.isActive with
      | true => simp [Op.effect, Op.concerns, Op.change, hj]
      | false => simp [Op.effect, Op.concerns, hj, canceled_of_ended now hj]
    simp [run, cancelAll, hmap, changed, Op.added]
  | start | stop | impressions | finish | cancel =>
    obtain ⟨j, hj⟩ := Option.ne_none_iff_exists'.mp (h _ rfl)
    exact ⟨_, run_of_find? hq now rfl hj⟩

/-- **Every step is a change and a purge**, also that of an operation that fails: it changes nothing
    (`changed_eq_self`). -/
theorem after_eq {q : JobQueue} (hq : q.WellFormed) (now : Instant) (op : Op) :
    q.after now op = (q.changed now op).purge := by
  by_cases h : ∃ id, op.id? = some id ∧ q.find? id = none
  · -- no listed job has the number, so the change touches none
    obtain ⟨id, hid, hf⟩ := h
    have hadd := added_of_id? hid q now
    have hsame : ∀ j ∈ q.jobs, op.effect now j = j :=
      fun j hj => effect_of_ne now hid (find?_eq_none_iff.mp hf j hj)
    rw [changed_eq_self hadd hsame, purge_eq_self hq.bounded]
    simp [after, run_of_unknown now hid hf]
  · obtain ⟨a, ha⟩ := run_of_known hq now fun id hid hf => h ⟨id, hid, hf⟩
    simp [after, ha]

/-! ## Well-formed queues stay well-formed

  A change keeps the order of the numbers, and a purge keeps the bound on ended jobs; by induction
  so does a run. -/

/-- A job that is added gets a number above all others, so the order by number stays. -/
theorem ascending_changed {q : JobQueue} (hq : q.WellFormed) (now : Instant) (op : Op) :
    (q.changed now op).jobs.Pairwise fun i j => i.id < j.id := by
  refine List.pairwise_append.mpr ⟨?_, ?_, ?_⟩
  · rw [List.pairwise_map]
    simpa using hq.ascending
  · cases op <;> simp [Op.added]
  · -- the number of an added job was not given out before
    intro i hi j hj
    obtain ⟨k, hk, rfl⟩ := List.mem_map.mp hi
    rw [id_effect, (mem_added hj).1]
    exact (hq.numbered k hk).2

/-- A job of the changed queue is a job that was there, changed by `Op.effect`, or one that was
    added. -/
theorem mem_changed {q : JobQueue} {now : Instant} {op : Op} {j : Job} :
    j ∈ (q.changed now op).jobs ↔ (∃ i ∈ q.jobs, op.effect now i = j) ∨ j ∈ op.added q now := by
  simp [changed]

/-- A job of a queue after a step is a job that was there, changed by `Op.effect`, or one that was
    added. -/
theorem mem_after {q : JobQueue} (hq : q.WellFormed) {now : Instant} {op : Op} {j : Job}
    (h : j ∈ (q.after now op).jobs) :
    (∃ i ∈ q.jobs, op.effect now i = j) ∨ j ∈ op.added q now := by
  rw [after_eq hq] at h
  exact mem_changed.mp ((purge_sublist _).subset h)

/-- **A change and a purge keep a queue `WellFormed`**: the purge keeps the ended jobs within the
    limit, and the rest holds of the change already. -/
theorem WellFormed.changed_purge {q : JobQueue} (hq : q.WellFormed) (now : Instant) (op : Op) :
    (q.changed now op).purge.WellFormed where
  ascending := (ascending_changed hq now op).sublist (purge_sublist _)
  positive := by
    have := hq.positive
    simp only [nextId_purge, changed]
    omega
  numbered := by
    intro j hj
    have hpos := hq.positive
    rcases mem_changed.mp ((purge_sublist _).subset hj) with ⟨i, hi, rfl⟩ | hadd
    · have := hq.numbered i hi
      simp only [id_effect, nextId_purge, changed]
      omega
    · have hlen : 0 < (op.added q now).length := List.length_pos_of_mem hadd
      have := (mem_added hadd).1
      simp only [nextId_purge, changed]
      omega
  bounded := by
    rw [ended_purge (nodup_of_ascending (ascending_changed hq now op)), List.length_drop,
      limit_purge]
    omega

theorem WellFormed.after {q : JobQueue} (hq : q.WellFormed) (now : Instant) (op : Op) :
    (q.after now op).WellFormed := by
  rw [after_eq hq]
  exact hq.changed_purge now op

/-- A job that is still active after an operation is not purged. -/
theorem find?_after_of_active {q : JobQueue} (hq : q.WellFormed) {now : Instant} {op : Op}
    {id : Int} {j : Job} (h : q.find? id = some j) (ha : (op.effect now j).isActive = true) :
    (q.after now op).find? id = some (op.effect now j) := by
  obtain ⟨hj, rfl⟩ := (find?_eq_some_iff hq).mp h
  rw [find?_eq_some_iff (hq.after now op), after_eq hq]
  have hmem : op.effect now j ∈ (q.changed now op).purge.active := by
    rw [active_purge (nodup_of_ascending (ascending_changed hq now op))]
    exact List.mem_filter.mpr ⟨mem_changed.mpr (.inl ⟨j, hj, rfl⟩), ha⟩
  exact ⟨(List.mem_filter.mp hmem).1, id_effect now op j⟩

theorem WellFormed.afterAll {q : JobQueue} (hq : q.WellFormed) (es : List (Instant × Op)) :
    (q.afterAll es).WellFormed := by
  induction es generalizing q with
  | nil => exact hq
  | cons e es ih => exact ih (hq.after e.1 e.2)

theorem wellFormed_empty (limit : Int) : ({ limit := limit } : JobQueue).WellFormed where
  ascending := List.Pairwise.nil
  numbered := by intro j hj; cases hj
  positive := Int.le_refl 1
  bounded := Nat.zero_le _

/-- **All runs from an empty queue stay well-formed**, step by step (`WellFormed.after`). -/
theorem Reachable.wellFormed {q : JobQueue} (h : q.Reachable) : q.WellFormed := by
  obtain ⟨limit, es, rfl⟩ := h
  exact (wellFormed_empty limit).afterAll es

/-- **What every step keeps of a job, every run keeps of all jobs**: an invariant `P` of `Op.effect`
    and `Op.added` is one of all runs. -/
theorem forall_afterAll {P : Job → Prop} {q : JobQueue} (hq : q.WellFormed)
    {es : List (Instant × Op)} (hstep : ∀ e ∈ es, ∀ j, P j → P (e.2.effect e.1 j))
    (hadd : ∀ (q : JobQueue) (now : Instant) (op : Op), ∀ j ∈ op.added q now, P j)
    (h : ∀ j ∈ q.jobs, P j) : ∀ j ∈ (q.afterAll es).jobs, P j := by
  induction es generalizing q with
  | nil => exact h
  | cons e es ih =>
    refine ih (q := q.after e.1 e.2) (hq.after e.1 e.2)
      (fun e' he' => hstep e' (List.mem_cons_of_mem e he')) fun j hj => ?_
    rcases mem_after hq hj with ⟨i, hi, rfl⟩ | hadded
    · exact hstep e List.mem_cons_self i (h i hi)
    · exact hadd q e.1 e.2 j hadded

end PrinterConsole.JobQueue
