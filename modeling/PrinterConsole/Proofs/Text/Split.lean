/-
  Splitting a text at a character, and trimming it.

  A text is split into the pieces between its separators, so there is one piece more than
  separators, and pieces may be empty.  Trimming takes the blanks off the front, and off the back
  by the same on the reversed text; what is said of one end is therefore proved for the other by
  reversing.

  Main statements: the pieces with the separators between them are the text, and no piece has a
  separator (`exists_splitOn`); what is before a separator is the first piece (`splitOn_append`);
  and a trimmed text has no blanks at its ends (`eq_nil_of_blank_front`, `eq_nil_of_blank_back`).
-/
import PrinterConsole.Text.Blank
import PrinterConsole.Text.Part

namespace PrinterConsole.Text

/-! ## Splitting -/

/-- The pieces between the separators, and the text that they come from.  By induction on the text;
    `splitOn` always gives a first piece. -/
theorem exists_splitOn (sep : Char) (cs : List Char) :
    ∃ first parts, splitOn sep cs = first :: parts ∧
      first ++ parts.flatMap (sep :: ·) = cs ∧ sep ∉ first ∧ ∀ part ∈ parts, sep ∉ part := by
  induction cs with
  | nil => exact ⟨[], [], rfl, rfl, List.not_mem_nil, List.forall_mem_nil _⟩
  | cons c cs ih =>
    obtain ⟨first, parts, hsplit, hjoin, hfirst, hparts⟩ := ih
    by_cases hc : c = sep
    · subst hc
      refine ⟨[], first :: parts, ?_, ?_, List.not_mem_nil, ?_⟩
      · rw [splitOn, if_pos rfl, hsplit]
      · rw [List.nil_append, List.flatMap_cons, List.cons_append, hjoin]
      · exact List.forall_mem_cons.2 ⟨hfirst, hparts⟩
    · refine ⟨c :: first, parts, ?_, ?_, ?_, hparts⟩
      · rw [splitOn, if_neg hc, hsplit]
      · rw [List.cons_append, hjoin]
      · rw [List.mem_cons, not_or]
        exact ⟨Ne.symm hc, hfirst⟩

theorem splitOn_of_notMem {sep : Char} {cs : List Char} (h : sep ∉ cs) : splitOn sep cs = [cs] := by
  induction cs with
  | nil => rfl
  | cons c cs ih =>
    rw [List.mem_cons, not_or] at h
    rw [splitOn, if_neg (Ne.symm h.1), ih h.2]

theorem splitOn_append {sep : Char} {front : List Char} (h : sep ∉ front) (back : List Char) :
    splitOn sep (front ++ sep :: back) = front :: splitOn sep back := by
  induction front with
  | nil => rw [List.nil_append, splitOn, if_pos rfl]
  | cons c cs ih =>
    rw [List.mem_cons, not_or] at h
    rw [List.cons_append, splitOn, if_neg (Ne.symm h.1), ih h.2]

/-! ## Trimming -/

/-- Nothing is dropped in front of a character of which `p` does not hold. -/
theorem dropWhile_of_head {p : Char → Bool} {cs : List Char}
    (h : ∀ c more, cs = c :: more → p c = false) : cs.dropWhile p = cs := by
  cases cs with
  | nil => rfl
  | cons c more => exact List.dropWhile_cons_of_neg (by simp [h c more rfl])

/-- A text without blanks at its ends is as `trim` leaves it. -/
theorem trim_eq_self {cs : List Char} (hfront : ∀ c more, cs = c :: more → isBlank c = false)
    (hback : ∀ c more, cs.reverse = c :: more → isBlank c = false) : trim cs = cs := by
  rw [trim, trimStart, trimEnd, dropWhile_of_head hfront, dropWhile_of_head hback,
    List.reverse_reverse]

theorem trim_sublist (cs : List Char) : List.Sublist (trim cs) cs := by
  unfold trim trimEnd trimStart
  exact (List.reverse_sublist.1 (by rw [List.reverse_reverse]; exact List.dropWhile_sublist _)).trans
    (List.dropWhile_sublist _)

/-- A text that is as long as `trim` leaves it is trimmed. -/
theorem trim_eq_self_of_length {cs : List Char} (h : cs.length ≤ (trim cs).length) :
    trim cs = cs := (trim_sublist cs).eq_of_length_le h

/-- A text as `trim` leaves it does not begin with blanks. -/
theorem eq_nil_of_blank_front {front cs : List Char} (h : trim (front ++ cs) = front ++ cs)
    (hblank : ∀ c ∈ front, isBlank c = true) : front = [] := by
  cases front with
  | nil => rfl
  | cons c rest =>
    have hc := head_trim_not_blank (h.trans List.cons_append)
    rw [hblank c List.mem_cons_self] at hc
    cases hc

/-- A trimmed text has no blanks at its back, by `eq_nil_of_blank_front` of the text backwards. -/
theorem eq_nil_of_blank_back {cs back : List Char} (h : trim (cs ++ back) = cs ++ back)
    (hblank : ∀ c ∈ back, isBlank c = true) : back = [] := by
  cases hback : back.reverse with
  | nil => exact List.reverse_eq_nil_iff.1 hback
  | cons c rest =>
    have hreverse : (trim (cs ++ back)).reverse = c :: (rest ++ cs.reverse) := by
      rw [h, List.reverse_append, hback, List.cons_append]
    have hc := last_trim_not_blank hreverse
    have hmem : c ∈ back := List.mem_reverse.1 (hback ▸ List.mem_cons_self)
    rw [hblank c hmem] at hc
    cases hc

end PrinterConsole.Text
