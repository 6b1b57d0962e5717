/-
  Blank characters: the white space that is trimmed from submitted and stored texts.

  `isBlank` is the Unicode notion of white space together with the four ASCII information
  separators (U+001C to U+001F).  Zero-width characters such as U+200B and U+FEFF are not blank:
  they print nothing, but they are part of a text.

  `trim` drops blanks at both ends, one end after the other.  The second pass works on what the
  first has left and could touch the front again; that it does not is `trimEnd_cons_head`.

  Main statement: a trimmed text neither starts nor ends with a blank (`head_trim_not_blank`,
  `last_trim_not_blank`).
-/

namespace PrinterConsole.Text

/-- The character `c` is one that `trim` removes, by its code point. -/
def isBlank (c : Char) : Bool :=
  let n := c.toNat
  (9 ≤ n && n ≤ 13) || (28 ≤ n && n ≤ 32) || n == 0x85 || n == 0xA0 || n == 0x1680 ||
    (0x2000 ≤ n && n ≤ 0x200A) || n == 0x2028 || n == 0x2029 || n == 0x202F || n == 0x205F ||
    n == 0x3000

/-! ## Trimming -/

/-- `cs` without its leading blanks. -/
def trimStart (cs : List Char) : List Char := cs.dropWhile isBlank

/-- `cs` without its trailing blanks. -/
def trimEnd (cs : List Char) : List Char := (cs.reverse.dropWhile isBlank).reverse

/-- `cs` without its leading and trailing blanks. -/
def trim (cs : List Char) : List Char := trimEnd (trimStart cs)

/-- `s` without its leading and trailing blanks. -/
def trimmed (s : String) : String := String.ofList (trim s.toList)

/-- The text `s` is of blanks only, the empty one included. -/
def isBlankText (s : String) : Bool := s.toList.all isBlank

/-- Dropping while `p` holds stops before a character for which it does not; the core of both ends
    of `trim`. -/
theorem head_dropWhile_not {p : Char → Bool} {cs r : List Char} {c : Char}
    (h : cs.dropWhile p = c :: r) : p c = false := by
  induction cs with
  | nil => simp at h
  | cons d ds ih =>
    rw [List.dropWhile_cons] at h
    split at h
    · exact ih h
    · rename_i hd
      cases h
      simpa using hd

/-- A trimmed text does not end in a blank: `trimEnd` is the last step. -/
theorem last_trim_not_blank {cs r : List Char} {c : Char} (h : (trim cs).reverse = c :: r) :
    isBlank c = false := by
  unfold trim trimEnd at h
  rw [List.reverse_reverse] at h
  exact head_dropWhile_not h

/-- `trimEnd` keeps the first character, if anything is left: what is dropped is a suffix. -/
theorem trimEnd_cons_head {cs r : List Char} {c : Char} (h : trimEnd cs = c :: r) :
    ∃ t, cs = c :: t := by
  unfold trimEnd at h
  have hs : cs.reverse.dropWhile isBlank <:+ cs.reverse := List.dropWhile_suffix _
  obtain ⟨p, hp⟩ := hs
  have : cs = (cs.reverse.dropWhile isBlank).reverse ++ p.reverse := by
    rw [← List.reverse_append, hp, List.reverse_reverse]
  rw [h] at this
  exact ⟨r ++ p.reverse, this⟩

/-- A trimmed text does not start with a blank: `trimStart` leaves none in front, and `trimEnd`
    keeps the front. -/
theorem head_trim_not_blank {cs r : List Char} {c : Char} (h : trim cs = c :: r) :
    isBlank c = false := by
  obtain ⟨t, ht⟩ := trimEnd_cons_head h
  exact head_dropWhile_not ht

end PrinterConsole.Text
