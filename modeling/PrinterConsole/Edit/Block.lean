/-
  Edit blocks: how a shared value is changed.

  A block works on a copy of the stored value.  When it ends, its copy becomes the stored value;
  when it gives up, its copy is dropped.  Inside a block the same value may be edited again, by a
  block with a copy of its own; the copy of the outer block is not affected by that and is stored
  last.

  `Block` is the body as a tree, `run` what it does to the stored value and the copy, and `commit`
  the whole edit.  The stored value is an argument of `run`, and not only the copy, because a
  block inside stores at its own end, at once and for good: that the outer block gives up later
  does not take it back.  `Proofs.Edit.Nesting` says exactly for which bodies an edit is therefore
  all or nothing.
-/
import PrinterConsole.Fault

namespace PrinterConsole.Edit

/-- The body of an edit block that works on a copy of an `α`. -/
inductive Block (α : Type) where
  /-- The end of the block. -/
  | done
  /-- Changes the copy; the change may look at the stored value, which comes first. -/
  | change (f : α → α → α) (rest : Block α)
  /-- A block inside the block.  If it gives up, the outer block goes on when it catches that. -/
  | nested (inner : Block α) (caught : Bool) (rest : Block α)
  /-- Gives the block up. -/
  | giveUp (why : Fault)

namespace Block

variable {α : Type}

/-- Runs a body on a stored value and a copy: the stored value after it, and the copy if the body
    came to its end.

    A block inside starts with a copy of what is stored, not of the outer copy.  When it ends, what
    it kept is what is stored from there on; when it gives up, only what blocks inside of it have
    stored is left (`after`). -/
def run : Block α → α → α → α × Except Fault α
  | done, stored, copy => (stored, .ok copy)
  | change f rest, stored, copy => run rest stored (f stored copy)
  | nested inner caught rest, stored, copy =>
    match run inner stored stored with
    | (_, .ok kept) => run rest kept copy
    | (after, .error why) => if caught then run rest after copy else (after, .error why)
  | giveUp why, stored, _ => (stored, .error why)

/-- Edits the value `stored` by the block `b`: the copy starts as the stored value, and takes its
    place if the block comes to its end. -/
def commit (b : Block α) (stored : α) : Except Fault Unit × α :=
  match b.run stored stored with
  | (_, .ok kept) => (.ok (), kept)
  | (after, .error why) => (.error why, after)

end Block

end PrinterConsole.Edit
