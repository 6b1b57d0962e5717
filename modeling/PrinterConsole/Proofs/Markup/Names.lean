/-
  The table of named characters.

  What is used of it are two bounds, on what a name stands for and on the names that count without
  a semicolon, and the three names by which text is escaped.

  The texts of the table are taken as lists of characters one by one (`Short.cons`), since to
  decode them all takes far longer.  The table is in three parts, and so is the proof
  (`short_fromUpper`, `short_fromLowerAL`, `short_fromLowerMZ`).

  Main statements: `length_named_le` and `two_le_length_oldNamed`.
-/
import PrinterConsole.Markup.Reference

namespace PrinterConsole.Markup

/-! ## Bounds -/

/-- The names of the list `l` stand for two characters at most. -/
def Short (l : List (String × String)) : Prop := ∀ n ∈ l, n.2.toList.length ≤ 2

namespace Short

theorem nil : Short [] := List.forall_mem_nil _

theorem cons {name : String} {value : List Char} {rest : List (String × String)}
    (hv : Nat.ble value.length 2 = true) (h : Short rest) :
    Short ((name, String.ofList value) :: rest) := by
  refine List.forall_mem_cons.2 ⟨?_, h⟩
  rw [String.toList_ofList]
  exact Nat.le_of_ble_eq_true hv

theorem append {l l' : List (String × String)} (h : Short l) (h' : Short l') : Short (l ++ l') :=
  List.forall_mem_append.2 ⟨h, h'⟩

end Short

theorem short_fromUpper : Short Names.fromUpper := by
  unfold Names.fromUpper
  repeat' refine Short.append ?_ ?_
  all_goals
    repeat refine Short.cons rfl ?_
    exact Short.nil

theorem short_fromLowerAL : Short Names.fromLowerAL := by
  unfold Names.fromLowerAL
  repeat' refine Short.append ?_ ?_
  all_goals
    repeat refine Short.cons rfl ?_
    exact Short.nil

theorem short_fromLowerMZ : Short Names.fromLowerMZ := by
  unfold Names.fromLowerMZ
  repeat' refine Short.append ?_ ?_
  all_goals
    repeat refine Short.cons rfl ?_
    exact Short.nil

/-- Every name of the table `names` stands for two characters at most, part by part. -/
theorem short_names : Short names :=
  (short_fromUpper.append short_fromLowerAL).append short_fromLowerMZ

/-- **A name stands for two characters at most**: whatever `named?` finds. -/
theorem length_named_le {name value : List Char} (h : named? name = some value) :
    value.length ≤ 2 := by
  obtain ⟨text, htext, rfl⟩ := Option.map_eq_some_iff.1 h
  obtain ⟨before, after, hnames, -⟩ := List.lookup_eq_some_iff.1 htext
  refine short_names (String.ofList name, text) ?_
  rw [hnames]
  exact List.mem_append_right _ List.mem_cons_self

/-- The names of the list `l` have two letters at least. -/
def Long (l : List String) : Prop := ∀ n ∈ l, 2 ≤ n.toList.length

theorem Long.cons {name : List Char} {rest : List String} (hn : Nat.ble 2 name.length = true)
    (h : Long rest) : Long (String.ofList name :: rest) := by
  refine List.forall_mem_cons.2 ⟨?_, h⟩
  rw [String.toList_ofList]
  exact Nat.le_of_ble_eq_true hn

theorem long_oldNames : Long oldNames := by
  unfold oldNames
  repeat refine Long.cons rfl ?_
  exact List.forall_mem_nil _

/-- **A name that counts without a semicolon has two letters at least**, and as `oldNamed?` looks it
    up in the same table, it stands for two characters at most. -/
theorem two_le_length_oldNamed {name value : List Char} (h : oldNamed? name = some value) :
    2 ≤ name.length ∧ value.length ≤ 2 := by
  unfold oldNamed? at h
  split at h
  · rename_i hold
    have hlong := long_oldNames _ (List.contains_iff_mem.1 hold)
    rw [String.toList_ofList] at hlong
    exact ⟨hlong, length_named_le h⟩
  · cases h

/-! ## The names of escaped characters -/

theorem named_amp : named? ['a', 'm', 'p'] = some ['&'] := by decide +kernel

theorem named_lt : named? ['l', 't'] = some ['<'] := by decide +kernel

theorem named_gt : named? ['g', 't'] = some ['>'] := by decide +kernel

end PrinterConsole.Markup
