/-
  A run of messages: what becomes known of the parts, and which messages the log takes.

  A message makes its name known.  A name settles with its first message of a level whether it
  lets that level pass, and this stays as it is for the rest of the run (`lookup_after_of_some`),
  whatever becomes known later.  So what decides on a message are two moments: the first message
  of its name and level (`IsFirst`), and the message itself (`takes_of_first`).

  `after` is the run of `meet`, and a fact about it is proved by one about `meet` and an induction
  on the messages.  `IsOpen` is what a run may begin with: nothing is settled that could have come
  out otherwise, so that the beginning need not be told.

  What is taken is compared with what was asked for message by message
  (`filter_taken_eq_filter_iff`).  One direction compares two lists at their heads, where a
  message that was lost must not be made up for by a later one; that is `filter_taken_ne_cons`.

  Main statements: `takes_of_first`, `filter_taken_eq_filter_iff`.
-/
import Mathlib.Data.List.Basic
import PrinterConsole.Log

namespace PrinterConsole.Log

/-- What a level is settled for by the message `m`: the name, and the level. -/
def Message.key (m : Message) : String × Int := (m.name, m.level)

/-! ## First messages

  Whether a name lets a level pass is settled with the first message of both.  So every message is
  told together with that first one (`IsFirst`). -/

/-- Of the messages up to `m`, `first` is the first one of its name and level; `front` is what comes
    before it. -/
structure IsFirst (before : List Message) (m : Message) (front : List Message) (first : Message) :
    Prop where
  isPrefix : front ++ [first] <+: before ++ [m]
  key_eq : first.key = m.key
  fresh : ∀ x ∈ front, m.key ≠ x.key

/-- There is a first one; it may be the message itself.  It is found by `List.find?` for the key. -/
theorem exists_isFirst (before : List Message) (m : Message) :
    ∃ front first, IsFirst before m front first := by
  induction before with
  | nil => exact ⟨[], m, List.prefix_rfl, rfl, nofun⟩
  | cons x before ih =>
    by_cases hx : x.key = m.key
    · exact ⟨[], x, List.prefix_append [x] _, hx, nofun⟩
    · obtain ⟨front, first, hprefix, hkey, hfresh⟩ := ih
      exact ⟨x :: front, first, List.cons_prefix_cons.2 ⟨rfl, hprefix⟩, hkey,
        List.forall_mem_cons.2 ⟨Ne.symm hx, hfresh⟩⟩

namespace Settings

variable {s : Settings} {p : Parts}

/-- What is known of the parts after the messages `ms`. -/
def after (s : Settings) (p : Parts) (ms : List Message) : Parts := ms.foldl s.meet p

theorem after_cons (m : Message) (ms : List Message) :
    s.after p (m :: ms) = s.after (s.meet p m) ms := rfl

theorem after_append (front back : List Message) :
    s.after p (front ++ back) = s.after (s.after p front) back := List.foldl_append

/-- The last message `m` is met after all others. -/
theorem after_concat (ms : List Message) (m : Message) :
    s.after p (ms ++ [m]) = s.meet (s.after p ms) m := after_append ms [m]

/-! ## Names

  A name is known from its first message on, and stays so. -/

theorem names_meet (m : Message) : (s.meet p m).names = m.name :: p.names := by
  unfold meet
  split <;> rfl

/-- What is known (`Parts.names`) after messages are their names, and those known before. -/
theorem mem_names_after {name : String} {ms : List Message} :
    name ∈ (s.after p ms).names ↔ name ∈ ms.map (·.name) ∨ name ∈ p.names := by
  induction ms generalizing p with
  | nil => exact (or_iff_right List.not_mem_nil).symm
  | cons m ms ih =>
    rw [after_cons, ih, names_meet, List.map_cons, List.mem_cons, List.mem_cons]
    tauto

/-! ## What is settled

  What is settled once is not settled again.  At the start nothing is, and behind the setup only
  what would be settled in the same way at any time (`IsOpen`). -/

/-- What is settled with a message: what was settled before for its `key`, or else whether its name
    lets its level pass now. -/
theorem lookup_meet (m : Message) :
    (s.meet p m).settled.lookup m.key =
      some ((p.settled.lookup m.key).getD (s.letsPass (m.name :: p.names) m.name m.level)) := by
  unfold meet
  split
  · rename_i passes h
    rw [Message.key, h]
    rfl
  · rename_i h
    rw [Message.key, h, List.lookup_cons_self]
    rfl

theorem lookup_meet_of_ne {key : String × Int} {m : Message} (h : key ≠ m.key) :
    (s.meet p m).settled.lookup key = p.settled.lookup key := by
  unfold meet
  split
  · rfl
  · rw [List.lookup_cons, show (m.name, m.level) = m.key from rfl, beq_false_of_ne h]

/-- **What is settled stays so**: along the run, `lookup_meet` for its own key and
    `lookup_meet_of_ne` for others. -/
theorem lookup_after_of_some {key : String × Int} {passes : Bool} {ms : List Message}
    (h : p.settled.lookup key = some passes) : (s.after p ms).settled.lookup key = some passes := by
  induction ms generalizing p with
  | nil => exact h
  | cons m ms ih =>
    refine ih ?_
    by_cases hkey : key = m.key
    · subst hkey
      rw [lookup_meet, h]
      rfl
    · rw [lookup_meet_of_ne hkey, h]

/-- Without a message of a name and level (`key`), what is settled for them is as before. -/
theorem lookup_after_of_ne {key : String × Int} {ms : List Message} (h : ∀ m ∈ ms, key ≠ m.key) :
    (s.after p ms).settled.lookup key = p.settled.lookup key := by
  induction ms generalizing p with
  | nil => rfl
  | cons m ms ih =>
    rw [List.forall_mem_cons] at h
    rw [after_cons, ih h.2, lookup_meet_of_ne h.1]

/-- What is settled in `p` before a run depends on nothing that may become known. -/
def IsOpen (s : Settings) (p : Parts) : Prop :=
  ∀ known name level,
    (p.settled.lookup (name, level)).getD (s.letsPass known name level) = s.letsPass known name level

theorem covers_self (known : List String) : s.covers known s.name = true := by
  rw [covers, beq_self_eq_true, Bool.or_true, Bool.true_or]

theorem letsPass_self (known known' : List String) (level : Int) :
    s.letsPass known s.name level = s.letsPass known' s.name level := by
  rw [letsPass, letsPass, covers_self, covers_self]

theorem isOpen_start : s.IsOpen s.start := fun _ _ _ => rfl

/-- A message under the log's own name settles nothing that could come out otherwise
    (`letsPass_self`). -/
theorem IsOpen.meet (hp : s.IsOpen p) {m : Message} (hm : m.name = s.name) :
    s.IsOpen (s.meet p m) := by
  intro known name level
  by_cases hkey : (name, level) = m.key
  · obtain ⟨rfl, rfl⟩ := Prod.mk.inj hkey
    have hbefore := hp (m.name :: p.names) m.name m.level
    rw [hkey] at hbefore ⊢
    rw [lookup_meet, hbefore, hm]
    exact letsPass_self _ _ _
  · rw [lookup_meet_of_ne hkey]
    exact hp known name level

/-- A run of messages under the log's own name settles nothing that may become another
    (`IsOpen`). -/
theorem IsOpen.after (hp : s.IsOpen p) {ms : List Message} (h : ∀ m ∈ ms, m.name = s.name) :
    s.IsOpen (s.after p ms) := by
  induction ms generalizing p with
  | nil => exact hp
  | cons m ms ih =>
    rw [List.forall_mem_cons] at h
    exact ih (hp.meet h.1) h.2

theorem name_of_mem_opening {setup : Setup} :
    ∀ m ∈ s.opening setup, m.name = s.name ∧ m.level = infoLevel := by
  unfold opening
  split <;> simp

/-- **Two moments decide on a message**: whether its level is let pass is settled with the first
    message of its name and level (`IsFirst`), and whether the log covers its name is seen when it
    comes. -/
theorem takes_of_first (hp : s.IsOpen p) {before front : List Message} {m first : Message}
    (hfirst : IsFirst before m front first) :
    s.takes (s.after p (before ++ [m])) m =
      (s.letsPass (s.after p (front ++ [first])).names m.name m.level &&
        s.covers (s.after p (before ++ [m])).names m.name) := by
  obtain ⟨⟨back, hback⟩, hkey, hfresh⟩ := hfirst
  have hname : first.name = m.name := congrArg Prod.fst hkey
  have hlevel : first.level = m.level := congrArg Prod.snd hkey
  have hlookup : (s.after p (front ++ [first])).settled.lookup m.key =
      some (s.letsPass (s.after p (front ++ [first])).names m.name m.level) := by
    rw [after_concat, ← hkey, lookup_meet, hkey, lookup_after_of_ne hfresh, names_meet, hname,
      hlevel]
    exact congrArg some (hp _ _ _)
  have hsettled : (s.after p (before ++ [m])).settled.lookup m.key =
      some (s.letsPass (s.after p (front ++ [first])).names m.name m.level) := by
    rw [← hback, after_append]
    exact lookup_after_of_some hlookup
  rw [takes, show (m.name, m.level) = m.key from rfl, hsettled]
  rfl

/-! ## What is taken

  A filter of the messages that are taken is compared with a filter of all, position by position. -/

theorem taken_append (front back : List Message) :
    s.taken p (front ++ back) = s.taken p front ++ s.taken (s.after p front) back := by
  induction front generalizing p with
  | nil => rfl
  | cons m front ih =>
    simp only [List.cons_append, taken, ih, after_cons]
    split <;> rfl

/-- Every place in a list is its head or a place in its tail; so a statement about all places can be
    proved along the list. -/
theorem forall_split_cons {m : Message} {ms : List Message} {P : List Message → Message → Prop} :
    (∀ before x back, m :: ms = before ++ x :: back → P before x) ↔
      P [] m ∧ ∀ before x back, ms = before ++ x :: back → P (m :: before) x := by
  constructor
  · intro h
    exact ⟨h [] m ms rfl, fun before x back hms => h (m :: before) x back (congrArg (m :: ·) hms)⟩
  · rintro ⟨hhead, htail⟩ before x back hms
    cases before with
    | nil =>
      cases hms
      exact hhead
    | cons y before =>
      cases hms
      exact htail before x back rfl

/-- A message that was asked for and is lost is not made up for.  What is taken of `ms` and `shown`
    is never `m`, which was `asked` for, and then all of `ms` that was asked for: among the messages
    of `ms`, of which it is a sublist (`taken_sublist`), there is one too few that was asked for. -/
theorem filter_taken_ne_cons {shown asked : Message → Bool}
    (hshown : ∀ m, asked m = true → shown m = true) {m : Message} (hm : asked m = true)
    (ms : List Message) : (s.taken p ms).filter shown ≠ m :: ms.filter asked := by
  intro h
  have hasked := congrArg (List.filter asked) h
  have hboth : ∀ x, (asked x && shown x) = asked x := by
    intro x
    cases hx : asked x with
    | false => rfl
    | true => rw [hshown x hx, Bool.and_self]
  simp only [List.filter_filter, hboth, List.filter_cons_of_pos hm, Bool.and_self] at hasked
  have hle : ((s.taken p ms).filter asked).length ≤ (ms.filter asked).length :=
    ((taken_sublist s p ms).filter asked).length_le
  rw [hasked] at hle
  exact Nat.not_succ_le_self _ hle

/-- **What is taken and shown is what was asked for** exactly if every message that was asked for is
    taken, and none is taken and shown that was not.  By induction on the messages: if the first one
    is taken, or was not asked for, the rest must agree; if it was asked for and is lost,
    `filter_taken_ne_cons` shows that the lists differ. -/
theorem filter_taken_eq_filter_iff {shown asked : Message → Bool}
    (hshown : ∀ m, asked m = true → shown m = true) {ms : List Message} :
    (s.taken p ms).filter shown = ms.filter asked ↔
      ∀ before m back, ms = before ++ m :: back →
        (asked m = true → s.takes (s.after p (before ++ [m])) m = true) ∧
        (shown m = true → s.takes (s.after p (before ++ [m])) m = true → asked m = true) := by
  induction ms generalizing p with
  | nil => exact iff_of_true rfl fun before m back h => by simp at h
  | cons m ms ih =>
    rw [forall_split_cons]
    refine Iff.trans ?_ (and_congr_right fun _ => ih)
    show _ ↔ ((_ → s.takes (s.meet p m) m = true) ∧ (_ → s.takes (s.meet p m) m = true → _)) ∧ _
    rw [taken]
    by_cases hm : asked m = true
    · rw [List.filter_cons_of_pos hm]
      split
      · rename_i htakes
        rw [List.filter_cons_of_pos (hshown m hm), List.cons.injEq]
        tauto
      · rename_i htakes
        exact iff_of_false (filter_taken_ne_cons hshown hm ms) fun h => htakes (h.1.1 hm)
    · rw [List.filter_cons_of_neg hm]
      split
      · rename_i htakes
        by_cases hs : shown m = true
        · refine iff_of_false ?_ fun h => hm (h.1.2 hs htakes)
          intro h
          rw [List.filter_cons_of_pos hs] at h
          -- a message that was not asked for cannot be made up for by the rest
          have hmem : m ∈ ms.filter asked := h ▸ List.mem_cons_self
          exact hm (List.mem_filter.1 hmem).2
        · rw [List.filter_cons_of_neg hs]
          tauto
      · rename_i htakes
        tauto

end Settings

end PrinterConsole.Log
