/-
  Operations on different jobs change places.

  What two operations do to the jobs is easy to swap, since each changes one job and they are not
  the same (`effect_comm`).  What couples them is the limit: an operation that ends its job
  purges, and the purge takes the oldest ended jobs, which may be the job itself or one that ended
  before.

  The purge in the middle is absorbed by the last one (`purge_mapJobs_purge`), because the second
  operation is about a job that is still active and so brings no ended job back.  Hence both
  orders are the two changes followed by one purge (`after_after_eq`).

  Main statement: with the clock standing still, two operations about two active jobs succeed in
  either order, with the same answers and the same queue in the end (`run_comm`).
-/
import PrinterConsole.Proofs.Queue.Step

namespace PrinterConsole.JobQueue

/-! ## Changes without their purge -/

/-- An operation about one job changes the jobs by `Op.effect` and nothing else. -/
theorem changed_eq_mapJobs {op : Op} {id : Int} (h : op.id? = some id) (q : JobQueue)
    (now : Instant) : q.changed now op = q.mapJobs (op.effect now) := by
  rw [changed, added_of_id? h, mapJobs, List.append_nil, List.length_nil]
  simp

/-- Operations about jobs of different numbers do to any job `j` the same in either order. -/
theorem effect_comm {f g : Op} {a b : Int} (hf : f.id? = some a) (hg : g.id? = some b)
    (hab : a ≠ b) (now : Instant) (j : Job) :
    g.effect now (f.effect now j) = f.effect now (g.effect now j) := by
  by_cases ha : j.id = a
  · -- `g` leaves the job alone, before `f` as well as after it
    have hjb : j.id ≠ b := by rwa [ha]
    have hfb : (f.effect now j).id ≠ b := by rwa [id_effect]
    rw [effect_of_ne now hg hjb, effect_of_ne now hg hfb]
  · have hga : (g.effect now j).id ≠ a := by rwa [id_effect]
    rw [effect_of_ne now hf ha, effect_of_ne now hf hga]

/-- The changes (`changed`) of two such operations can be made in either order. -/
theorem changed_comm {f g : Op} {a b : Int} (hf : f.id? = some a) (hg : g.id? = some b)
    (hab : a ≠ b) (q : JobQueue) (now : Instant) :
    (q.changed now f).changed now g = (q.changed now g).changed now f := by
  have hswap : g.effect now ∘ f.effect now = f.effect now ∘ g.effect now :=
    funext fun j => effect_comm hf hg hab now j
  simp only [changed_eq_mapJobs hf, changed_eq_mapJobs hg, mapJobs, List.map_map, hswap]

/-! ## One operation after another -/

/-- **Two operations are two changes and one purge**, if the second is about an active job `j` and
    the first about another one. -/
theorem after_after_eq {q : JobQueue} (hq : q.WellFormed) (now : Instant) {f g : Op} {a : Int}
    {j : Job} (hj : j ∈ q.active) (hf : f.id? = some a) (hja : j.id ≠ a)
    (hg : g.id? = some j.id) :
    (q.after now f).after now g = ((q.changed now f).changed now g).purge := by
  have hascending := ascending_changed hq now f
  obtain ⟨hmem, hactive⟩ := List.mem_filter.mp hj
  have hchanged : j ∈ (q.changed now f).jobs :=
    mem_changed.mpr (.inl ⟨j, hmem, effect_of_ne now hf hja⟩)
  -- an ended job is not `j`, so the second operation leaves it alone
  have hended : ∀ i ∈ (q.changed now f).jobs, i.isActive = false →
      (g.effect now i).isActive = false := by
    intro i hi hie
    have hij : i.id ≠ j.id := by
      intro he
      rw [eq_of_id_eq hascending hi hchanged he, hactive] at hie
      cases hie
    rw [effect_of_ne now hg hij]
    exact hie
  rw [after_eq (hq.after now f), after_eq hq, changed_eq_mapJobs hg,
    purge_mapJobs_purge (nodup_of_ascending hascending) (id_effect now g) hended,
    ← changed_eq_mapJobs hg]

/-- An operation about an active job succeeds after one about another job, and answers (`Op.answer`)
    what it would have answered before it. -/
theorem run_after {q : JobQueue} (hq : q.WellFormed) (now : Instant) {f g : Op} {a : Int}
    {j : Job} (hj : j ∈ q.active) (hf : f.id? = some a) (hja : j.id ≠ a)
    (hg : g.id? = some j.id) :
    (q.after now f).run now g = .ok (g.answer now j, ((q.changed now f).changed now g).purge) := by
  obtain ⟨hmem, hactive⟩ := List.mem_filter.mp hj
  have hsame : f.effect now j = j := effect_of_ne now hf hja
  have hfound : (q.after now f).find? j.id = some (f.effect now j) :=
    find?_after_of_active hq ((find?_eq_some_iff hq).mpr ⟨hmem, rfl⟩) (by rwa [hsame])
  rw [hsame] at hfound
  rw [run_of_find? (hq.after now f) now hg hfound, ← after_eq (hq.after now f),
    after_after_eq hq now hj hf hja hg]

/-- **Operations on different active jobs commute.** Of two operations `f` and `g` that are about
    two active jobs, each succeeds, before the other and after it, with the same answer, and both
    orders lead to the same queue. -/
theorem run_comm {q : JobQueue} (hq : q.Reachable) (now : Instant) {i j : Job}
    (hi : i ∈ q.active) (hj : j ∈ q.active) (hij : i ≠ j) {f g : Op} (hf : f.id? = some i.id)
    (hg : g.id? = some j.id) :
    ∃ (x y : Answer) (qf qg last : JobQueue),
      (q.run now f = .ok (x, qf) ∧ qf.run now g = .ok (y, last)) ∧
      (q.run now g = .ok (y, qg) ∧ qg.run now f = .ok (x, last)) := by
  have hw := hq.wellFormed
  have him := (List.mem_filter.mp hi).1
  have hjm := (List.mem_filter.mp hj).1
  have hid : i.id ≠ j.id := fun he => hij (eq_of_id_eq hw.ascending him hjm he)
  have hfirst : ∀ {op : Op} {k : Job}, k ∈ q.jobs → op.id? = some k.id →
      q.run now op = .ok (op.answer now k, q.after now op) := by
    intro op k hk hop
    rw [after_eq hw]
    exact run_of_find? hw now hop ((find?_eq_some_iff hw).mpr ⟨hk, rfl⟩)
  refine ⟨f.answer now i, g.answer now j, q.after now f, q.after now g,
    ((q.changed now f).changed now g).purge, ⟨hfirst him hf, ?_⟩, ⟨hfirst hjm hg, ?_⟩⟩
  · exact run_after hw now hj hf hid.symm hg
  · rw [changed_comm hf hg hid]
    exact run_after hw now hi hg hid hf

/-- With room for one ended job, the printer finishes the older of two jobs and the newer one is
    canceled: in either order it is the finished one that is purged. -/
theorem run_comm_finish_cancel :
    let q := ({ limit := 1 } : JobQueue).afterAll
      [(⟨0⟩, .create "a" "x" false), (⟨1⟩, .create "b" "y" false), (⟨2⟩, .start 1)]
    let i : Job :=
      { id := 1, name := "a", owner := "x", state := .processing, created := some ⟨0⟩,
        processing := some ⟨2⟩ }
    let j : Job := { id := 2, name := "b", owner := "y", state := .pending, created := some ⟨1⟩ }
    q.Reachable ∧ i ∈ q.active ∧ j ∈ q.active ∧ i ≠ j ∧
      ∃ (x y : Answer) (qf qg last : JobQueue),
        (q.run ⟨3⟩ (.finish 1 .completed) = .ok (x, qf) ∧
          qf.run ⟨3⟩ (.cancel 2) = .ok (y, last)) ∧
        (q.run ⟨3⟩ (.cancel 2) = .ok (y, qg) ∧
          qg.run ⟨3⟩ (.finish 1 .completed) = .ok (x, last)) ∧
        last.newestFirst.map Job.id = [2] := by
  intro q i j
  have hq : q.Reachable := ⟨1, _, rfl⟩
  have hi : i ∈ q.active := by decide
  have hj : j ∈ q.active := by decide
  have hij : i ≠ j := by decide
  obtain ⟨x, y, qf, qg, last, ⟨hf, hfg⟩, hgf⟩ :=
    run_comm hq ⟨3⟩ hi hj hij (f := .finish 1 .completed) (g := .cancel 2) rfl rfl
  have hlast : last = (q.after ⟨3⟩ (.finish 1 .completed)).after ⟨3⟩ (.cancel 2) := by
    simp only [after, hf, hfg]
  refine ⟨hq, hi, hj, hij, x, y, qf, qg, last, ⟨hf, hfg⟩, hgf, ?_⟩
  rw [hlast]
  decide

end PrinterConsole.JobQueue
