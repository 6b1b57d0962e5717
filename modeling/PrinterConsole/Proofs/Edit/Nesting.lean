/-
  Edit blocks inside edit blocks.

  An edit block works on a copy that it takes when it begins, and stores the whole copy when it
  ends.  A block inside it takes its copy later and stores it earlier.  So the copy of the outer
  block, which is stored last, brings back what was stored before the inner blocks, at every key
  that the outer block itself does not write; and an outer block that gives up leaves what the
  last inner block has stored.  A block is a transaction (`IsTransaction`) exactly if neither
  makes a difference; in particular if nothing is stored inside it
  (`isTransaction_of_commits_eq_nil`).

  A `Block` changes its copy by any function, which does not say what it writes.  A `Script` is
  the same body with the keys told, and `exists_block_eq` gives every block one; so the theorem is
  about every block and every way of telling its keys.

  The argument goes along a run.  What a run stores is what the last of its inner blocks stored
  (`stored_of_run`), and its copy keeps every key that its own updates do not write
  (`value_of_run`); both are inductions on the body, with one case for each way in which an inner
  block can end.

  Main statement: `isTransaction_iff`.  `not_forall_isTransaction` has two blocks that are none.
-/
import Mathlib.Data.List.Basic
import PrinterConsole.Edit.Block
import PrinterConsole.Json.Basic

namespace PrinterConsole.Edit

variable {α κ β : Type}

/-! ## Scripts

  A `Script` is an edit block whose changes say which keys they write, and in which blocks may stand
  inside blocks.  Every `Block` is one (`exists_block_eq`), so nothing is lost by speaking of
  scripts. -/

/-- A change `apply` of the copy, with the keys it writes; it may look at the stored value, which
    comes first. -/
structure Update (value : α → κ → β) where
  apply : α → α → α
  keys : α → α → κ → Prop
  keeps : ∀ {stored copy : α} {k : κ},
    ¬ keys stored copy k → value (apply stored copy) k = value copy k

/-- The body of an edit block of an object, in which every change is an `Update` that tells the keys
    that it writes. -/
inductive Script (value : α → κ → β) where
  | done
  | update (u : Update value) (rest : Script value)
  | nested (inner : Script value) (caught : Bool) (rest : Script value)
  | giveUp (why : Fault)

/-- A block that came to its end: the keys it wrote, and the copy that it stored (`kept`). -/
structure Ended (α κ : Type) where
  written : κ → Prop
  kept : α

namespace Script

variable {value : α → κ → β}

/-- The body as a `Block` that runs: a script without its keys. -/
def block : Script value → Block α
  | done => .done
  | update u rest => .change u.apply rest.block
  | nested inner caught rest => .nested inner.block caught rest.block
  | giveUp why => .giveUp why

/-- **Every `Block` is that of a script**: a change can be said to write the keys whose value it
    changes. -/
theorem exists_block_eq (value : α → κ → β) (b : Block α) : ∃ s : Script value, s.block = b := by
  induction b with
  | done => exact ⟨done, rfl⟩
  | giveUp why => exact ⟨giveUp why, rfl⟩
  | change f rest ih =>
    obtain ⟨rest, rfl⟩ := ih
    let u : Update value :=
      { apply := f
        keys := fun stored copy k => value (f stored copy) k ≠ value copy k
        keeps := not_not.mp }
    exact ⟨update u rest, rfl⟩
  | nested inner caught rest ihinner ihrest =>
    obtain ⟨inner, rfl⟩ := ihinner
    obtain ⟨rest, rfl⟩ := ihrest
    exact ⟨nested inner caught rest, rfl⟩

/-- What an inner block stored when it ended; `none` if it gave up. -/
def kept? : α × Except Fault α → Option α
  | (_, .ok kept) => some kept
  | (_, .error _) => none

/-- The stored value with which the outer block goes on after an inner block that is `caught` or
    not, if it goes on. -/
def goesOn (caught : Bool) : α × Except Fault α → Option α
  | (_, .ok kept) => some kept
  | (after, .error _) => if caught then some after else none

/-! ## Along a run

  What a run has written itself, what the blocks inside it have stored, and which of them have
  ended, each by recursion along the script.  The stored value and the copy are told by these. -/

/-- The keys that the body `b` writes in a run, not counting what the blocks inside it write.  They
    depend on the run, since a change may look at the stored value. -/
def written : Script value → α → α → κ → Prop
  | done, _, _ => fun _ => False
  | update u rest, stored, copy => fun k =>
    u.keys stored copy k ∨ rest.written stored (u.apply stored copy) k
  | nested inner caught rest, stored, copy =>
    (goesOn caught (inner.block.run stored stored)).elim (fun _ => False) fun s => rest.written s copy
  | giveUp _, _, _ => fun _ => False

def commits : Script value → α → α → List α
  | done, _, _ => []
  | update u rest, stored, copy => rest.commits stored (u.apply stored copy)
  | nested inner caught rest, stored, copy =>
    let r := inner.block.run stored stored
    inner.commits stored stored ++ (kept? r).toList ++
      (goesOn caught r).elim [] fun s => rest.commits s copy
  | giveUp _, _, _ => []

/-- The blocks (`Ended`) inside the body that came to their end in a run, and the blocks around them
    as well; those inside a block that gave up are left out. -/
def ended : Script value → α → α → List (Ended α κ)
  | done, _, _ => []
  | update u rest, stored, copy => rest.ended stored (u.apply stored copy)
  | nested inner caught rest, stored, copy =>
    let r := inner.block.run stored stored
    ((kept? r).elim [] fun kept =>
        inner.ended stored stored ++ [⟨inner.written stored stored, kept⟩]) ++
      (goesOn caught r).elim [] fun s => rest.ended s copy
  | giveUp _, _, _ => []

/-- **A run leaves what the last of its inner blocks stored**; what was stored before it, if there
    was none.  By induction on the body: an inner block that gives up still leaves what was stored
    inside of it, so its own `commits` count. -/
theorem stored_of_run (b : Script value) (stored copy : α) :
    (b.block.run stored copy).1 = (b.commits stored copy).getLast?.getD stored := by
  induction b generalizing stored copy with
  | done => rfl
  | giveUp => rfl
  | update u rest ih => exact ih stored (u.apply stored copy)
  | nested inner caught rest ihinner ihrest =>
    have hinner := ihinner stored stored
    simp only [block, Block.run, commits]
    rcases hr : inner.block.run stored stored with ⟨after, why | kept⟩
    · -- The inner block gave up, but blocks inside it may have stored something before that.
      replace hinner : after = (inner.commits stored stored).getLast?.getD stored := by
        rw [← hinner, hr]
      cases caught with
      | false => simpa [kept?, goesOn] using hinner
      | true =>
        simp only [kept?, goesOn, if_true, Option.toList_none, List.append_nil, Option.elim_some]
        rw [ihrest after copy, List.getLast?_append]
        cases (rest.commits after copy).getLast? with
        | none => exact hinner
        | some last => rfl
    · simp only [kept?, goesOn, Option.toList_some, Option.elim_some]
      rw [ihrest kept copy, List.getLast?_append, List.getLast?_append]
      cases (rest.commits kept copy).getLast? <;> rfl

/-- **The copy keeps every key that the body does not write** (`written`).  The copy of an inner
    block is another one, so what inner blocks write does not come into it. -/
theorem value_of_run {b : Script value} {stored copy after kept : α} {k : κ}
    (hrun : b.block.run stored copy = (after, .ok kept)) (hk : ¬ b.written stored copy k) :
    value kept k = value copy k := by
  induction b generalizing stored copy with
  | done =>
    cases hrun
    rfl
  | giveUp => cases hrun
  | update u rest ih =>
    rw [written, not_or] at hk
    exact (ih hrun hk.2).trans (u.keeps hk.1)
  | nested inner caught rest _ ih =>
    simp only [block, Block.run] at hrun
    rw [written] at hk
    rcases hr : inner.block.run stored stored with ⟨before, why | kept'⟩ <;>
      rw [hr] at hrun hk
    · cases caught with
      | false => cases hrun
      | true => exact ih hrun hk
    · exact ih hrun hk

/-! ## Transactions

  A block is a transaction if it leaves nothing when it gives up and if every write stays that no
  other one overrides.  Both are brought into a form that looks at the blocks inside it
  (`isUndone_iff`, `keepsWrites_iff`). -/

/-- Of the given blocks, `e` and no other wrote the key `k`. -/
def IsOnlyWriter (blocks : List (Ended α κ)) (e : Ended α κ) (k : κ) : Prop :=
  ∃ front back, blocks = front ++ e :: back ∧ e.written k ∧ ∀ other ∈ front ++ back, ¬ other.written k

/-- If the block `b` gives up, the stored value is as before. -/
def IsUndone (b : Script value) (stored : α) : Prop :=
  ∀ why after, b.block.commit stored = (.error why, after) → after = stored

/-- If the block ends, every key that exactly one of the blocks that came to their ends wrote has
    the value that this block gave it (`IsOnlyWriter`). -/
def KeepsWrites (b : Script value) (stored : α) : Prop :=
  ∀ after, b.block.commit stored = (.ok (), after) → ∀ e k,
    IsOnlyWriter (b.ended stored stored ++ [⟨b.written stored stored, after⟩]) e k →
      value after k = value e.kept k

/-- An edit of a stored value by the block `b` is a transaction. -/
structure IsTransaction (b : Script value) (stored : α) : Prop where
  undone : b.IsUndone stored
  kept : b.KeepsWrites stored

theorem commit_eq_error_iff {b : Block α} {stored after : α} {why : Fault} :
    b.commit stored = (.error why, after) ↔ b.run stored stored = (after, .error why) := by
  unfold Block.commit
  rcases b.run stored stored with ⟨before, why' | kept⟩ <;> simp [and_comm]

theorem commit_eq_ok_iff {b : Block α} {stored after : α} :
    b.commit stored = (.ok (), after) ↔ (b.run stored stored).2 = .ok after := by
  unfold Block.commit
  rcases b.run stored stored with ⟨before, why | kept⟩ <;> simp

/-- A block that gives up is undone exactly if the last block inside it, if any, stored the value
    that was there before (`stored_of_run`). -/
theorem isUndone_iff {b : Script value} {stored : α} :
    b.IsUndone stored ↔ ∀ why after, b.block.run stored stored = (after, .error why) →
      (b.commits stored stored).getLast?.getD stored = stored := by
  have hstored := stored_of_run b stored stored
  constructor
  · intro h why after hrun
    rw [← hstored, hrun]
    exact h why after (commit_eq_error_iff.mpr hrun)
  · intro h why after hcommit
    have hrun := commit_eq_error_iff.mp hcommit
    rw [hrun] at hstored
    exact hstored.trans (h why after hrun)

/-- With one more block `outer`, the only writer is that block or was the only writer before. -/
theorem isOnlyWriter_concat {blocks : List (Ended α κ)} {outer e : Ended α κ} {k : κ} :
    IsOnlyWriter (blocks ++ [outer]) e k ↔
      (IsOnlyWriter blocks e k ∧ ¬ outer.written k) ∨
        (e = outer ∧ outer.written k ∧ ∀ other ∈ blocks, ¬ other.written k) := by
  constructor
  · rintro ⟨front, back, hblocks, hwritten, hother⟩
    rcases List.eq_nil_or_concat back with rfl | ⟨back, last, rfl⟩
    · obtain ⟨rfl, hlast⟩ := List.append_inj' hblocks rfl
      cases hlast
      exact .inr ⟨rfl, hwritten, fun other h => hother other (List.mem_append_left _ h)⟩
    · rw [List.concat_eq_append, ← List.cons_append, ← List.append_assoc] at hblocks
      obtain ⟨rfl, hlast⟩ := List.append_inj' hblocks rfl
      cases hlast
      simp only [List.concat_eq_append, List.mem_append, List.mem_singleton] at hother
      refine .inl ⟨⟨front, back, rfl, hwritten, ?_⟩, hother outer (by simp)⟩
      intro other h
      exact hother other ((List.mem_append.mp h).imp_right .inl)
  · rintro (⟨⟨front, back, rfl, hwritten, hother⟩, hnot⟩ | ⟨rfl, hwritten, hother⟩)
    · refine ⟨front, back ++ [outer], by simp, hwritten, ?_⟩
      intro other h
      rw [← List.append_assoc, List.mem_append, List.mem_singleton] at h
      rcases h with h | rfl
      · exact hother other h
      · exact hnot
    · exact ⟨blocks, [], rfl, hwritten, fun other h => hother other (by simpa using h)⟩

/-- A block that ends keeps the writes exactly if every key that one inner block and nothing else
    wrote had already the value which that block gave it: the outer copy has the value from before
    (`value_of_run`), and a key that the outer block alone wrote keeps its value anyway. -/
theorem keepsWrites_iff {b : Script value} {stored : α} :
    b.KeepsWrites stored ↔ ∀ after, (b.block.run stored stored).2 = .ok after → ∀ e k,
      IsOnlyWriter (b.ended stored stored) e k → ¬ b.written stored stored k →
        value e.kept k = value stored k := by
  have hframe : ∀ {after k}, (b.block.run stored stored).2 = .ok after →
      ¬ b.written stored stored k → value after k = value stored k :=
    fun hrun hk => value_of_run (Prod.ext rfl hrun) hk
  constructor
  · intro h after hrun e k honly hk
    rw [← h after (commit_eq_ok_iff.mpr hrun) e k (isOnlyWriter_concat.mpr (.inl ⟨honly, hk⟩))]
    exact hframe hrun hk
  · intro h after hcommit e k honly
    have hrun := commit_eq_ok_iff.mp hcommit
    rcases isOnlyWriter_concat.mp honly with ⟨honly, hk⟩ | ⟨rfl, -, -⟩
    · rw [hframe hrun hk]
      exact (h after hrun e k honly hk).symm
    · rfl

/-- If no inner block stores anything then none has ended: one that ends always stores its copy. -/
theorem ended_eq_nil {b : Script value} {stored copy : α} (h : b.commits stored copy = []) :
    b.ended stored copy = [] := by
  induction b generalizing stored copy with
  | done => rfl
  | giveUp => rfl
  | update u rest ih => exact ih h
  | nested inner caught rest _ ih =>
    simp only [commits, List.append_eq_nil_iff] at h
    obtain ⟨⟨-, hkept⟩, hrest⟩ := h
    simp only [ended, List.append_eq_nil_iff]
    rcases hr : inner.block.run stored stored with ⟨after, why | kept⟩ <;> rw [hr] at hkept hrest
    · refine ⟨rfl, ?_⟩
      cases caught with
      | false => rfl
      | true => exact ih hrest
    · cases hkept

/-- **A block inside which nothing is stored is a transaction**: it is undone by `isUndone_iff`, and
    by `ended_eq_nil` there is no other writer. -/
theorem isTransaction_of_commits_eq_nil {b : Script value} {stored : α}
    (h : b.commits stored stored = []) : b.IsTransaction stored where
  undone := isUndone_iff.mpr fun _ _ _ => by rw [h]; rfl
  kept := keepsWrites_iff.mpr fun after _ e k honly => by
    obtain ⟨front, back, hblocks, -⟩ := honly
    rw [ended_eq_nil h] at hblocks
    exact absurd hblocks.symm (by simp)

/-- **When an edit block is a transaction**, whatever `Block` it is and whichever keys its changes
    are said to write.  Exactly if what its last inner block stores is the value from before
    whenever the outer block gives up, and if, whenever it ends, the inner blocks gave no new value
    to a key which one of them alone wrote and which the outer block did not.  So it is one if
    nothing is stored inside it. -/
theorem isTransaction_iff (value : α → κ → β) (body : Block α) (stored : α) :
    (∃ b : Script value, b.block = body) ∧
    ∀ b : Script value, b.block = body →
      (b.IsTransaction stored ↔
        (∀ why after, body.run stored stored = (after, .error why) →
          (b.commits stored stored).getLast?.getD stored = stored) ∧
        ∀ after, (body.run stored stored).2 = .ok after → ∀ e k,
          IsOnlyWriter (b.ended stored stored) e k → ¬ b.written stored stored k →
            value e.kept k = value stored k) ∧
      (b.commits stored stored = [] → b.IsTransaction stored) := by
  refine ⟨exists_block_eq value body, ?_⟩
  rintro b rfl
  refine ⟨⟨fun h => ?_, fun h => ?_⟩, isTransaction_of_commits_eq_nil⟩
  · exact ⟨isUndone_iff.mp h.undone, keepsWrites_iff.mp h.kept⟩
  · exact ⟨isUndone_iff.mpr h.1, keepsWrites_iff.mpr h.2⟩

end Script

/-! ## Objects

  For the counterexample the value is an object, whose keys are written by merging. -/

/-- Puts members into the object, as `Json.merge` does; the keys it writes are theirs. -/
def Update.merging (updates : List (String × Json)) : Update Json.lookup where
  apply _ copy := Json.merge copy updates
  keys _ _ key := key ∈ updates.map Prod.fst
  keeps := Json.lookup_merge_of_notMem

/-- Not every edit block of an object is a transaction.  With `a` put into the outer copy and `b`
    into the copy of a block inside it, the outer block loses `b` when it ends; and one that gives
    up after an inner block leaves that block's `b`. -/
theorem not_forall_isTransaction :
    (¬ ∀ (b : Script Json.lookup) (stored : List (String × Json)), b.KeepsWrites stored) ∧
      ¬ ∀ (b : Script Json.lookup) (stored : List (String × Json)), b.IsUndone stored := by
  let inner : Script Json.lookup := .update (.merging [("b", .int 2)]) .done
  constructor
  · intro h
    have hkept := h (.update (.merging [("a", .int 1)]) (.nested inner false .done)) []
      [("a", .int 1)] rfl ⟨inner.written [] [], [("b", .int 2)]⟩ "b"
      ⟨[], _, rfl, .inl (by simp [Update.merging]), ?_⟩
    · cases hkept
    · intro other hmem hwritten
      obtain rfl := List.mem_singleton.mp hmem
      rcases hwritten with hkeys | hrest
      · simp [Update.merging] at hkeys
      · exact hrest
  · intro h
    cases h (.nested inner false (.giveUp .interrupted)) [] _ _ rfl

end PrinterConsole.Edit
