/-
  Loaded media of one size in two sources.

  The search looks for a twin of an entry only among the entries behind it, gives up an entry
  without a width at once, and stops at the first twin.  Nothing is missed by that: a twin has a
  width if the other one has (`AreTwins.hasWidth`), and of two twins one is behind the other.

  So there are none exactly if no entry forms twins with one behind it (`hasTwins_eq_false_iff`,
  by induction on the list), which is a statement about the pairs of the list (`List.Pairwise`).
  Being twins is symmetric (`AreTwins.symm`), so the order does not count.

  Main statement: `hasTwins_iff_positions`.
-/
import Mathlib.Data.List.Perm.Basic
import PrinterConsole.Media.Loaded

namespace PrinterConsole.LoadedMedia

/-! ## Twins

  Two entries are twins if they have the same width and length, and the width is positive; that is
  symmetric, though the program compares each entry with those behind it. -/

/-- The entries `m` and `n` hold media of one size, and its width is positive. -/
structure AreTwins (m n : LoadedMedia) : Prop where
  width : m.width = n.width
  length : m.length = n.length
  width_pos : 0 < m.width

theorem AreTwins.symm {m n : LoadedMedia} (h : AreTwins m n) : AreTwins n m where
  width := h.width.symm
  length := h.length.symm
  width_pos := h.width ▸ h.width_pos

/-- The entry `m` has a positive width. -/
def hasWidth (m : LoadedMedia) : Bool := 0 < m.width

theorem AreTwins.hasWidth {m n : LoadedMedia} (h : AreTwins m n) :
    m.hasWidth = true ∧ n.hasWidth = true :=
  ⟨decide_eq_true h.width_pos, decide_eq_true h.symm.width_pos⟩

theorem sameSize_iff {m n : LoadedMedia} :
    sameSize m n = true ↔ m.width = n.width ∧ m.length = n.length := by
  simp [sameSize]

/-! ## The search

  To find no twins is to find no pair of positions with twins, and then the order is of no
  matter. -/

variable {ms ms' : List LoadedMedia}

/-- **The search finds nothing exactly if no entry forms twins with one behind it** (`AreTwins`). -/
theorem hasTwins_eq_false_iff :
    hasTwins ms = false ↔ ms.Pairwise fun m n => ¬ AreTwins m n := by
  induction ms with
  | nil => exact iff_of_true rfl .nil
  | cons m rest ih =>
    rw [hasTwins, Bool.or_eq_false_iff, ih, List.pairwise_cons]
    refine and_congr_left fun _ => ?_
    rw [Bool.and_eq_false_iff, decide_eq_false_iff_not, List.any_eq_false]
    constructor
    · intro h n hn htwins
      rcases h with hwidth | hany
      · exact hwidth htwins.width_pos
      · exact hany n hn (sameSize_iff.2 ⟨htwins.width, htwins.length⟩)
    · intro h
      by_cases hwidth : 0 < m.width
      · refine .inr fun n hn hsame => h n hn ?_
        obtain ⟨hw, hl⟩ := sameSize_iff.1 hsame
        exact ⟨hw, hl, hwidth⟩
      · exact .inl hwidth

/-- Lists in which the same pairs are free of twins have the same answer of `hasTwins`. -/
theorem hasTwins_congr
    (h : ms'.Pairwise (fun m n => ¬ AreTwins m n) ↔ ms.Pairwise fun m n => ¬ AreTwins m n) :
    hasTwins ms' = hasTwins ms := by
  rw [Bool.eq_iff_iff, ← not_iff_not, Bool.not_eq_true, Bool.not_eq_true,
    hasTwins_eq_false_iff, hasTwins_eq_false_iff]
  exact h

/-- The order of the entries makes no difference to `hasTwins`. -/
theorem hasTwins_eq_of_perm (h : ms.Perm ms') : hasTwins ms' = hasTwins ms :=
  hasTwins_congr (h.symm.pairwise_iff fun hne htwins => hne htwins.symm)

/-- Twins stay when entries are added: `hasTwins` is monotone in the list. -/
theorem hasTwins_of_sublist (h : ms.Sublist ms') (htwins : hasTwins ms = true) :
    hasTwins ms' = true := by
  by_contra hnone
  rw [Bool.not_eq_true, hasTwins_eq_false_iff] at hnone
  have hfew : hasTwins ms = false := hasTwins_eq_false_iff.2 (hnone.sublist h)
  rw [htwins] at hfew
  cases hfew

/-- Only entries with a positive width (`hasWidth`) count. -/
theorem hasTwins_filter (ms : List LoadedMedia) : hasTwins (ms.filter hasWidth) = hasTwins ms := by
  refine hasTwins_congr ?_
  rw [List.pairwise_filter]
  constructor
  · intro h
    refine h.imp fun {m n} hne htwins => ?_
    exact hne htwins.hasWidth.1 htwins.hasWidth.2 htwins
  · exact fun h => h.imp fun hne _ _ => hne

/-- **Twins are found exactly if two different positions hold entries of one size of positive
    width** (`AreTwins`).  So neither the order of the entries nor those without a width make a
    difference, and adding entries, in any place, leaves found what was found. -/
theorem hasTwins_iff_positions (ms : List LoadedMedia) :
    (hasTwins ms = true ↔
      ∃ i j, ∃ (hi : i < ms.length) (hj : j < ms.length), i ≠ j ∧ AreTwins ms[i] ms[j]) ∧
    (∀ ms', ms.Perm ms' → hasTwins ms' = hasTwins ms) ∧
    (∀ ms', ms.Subperm ms' → hasTwins ms = true → hasTwins ms' = true) ∧
    ∀ ms', ms'.filter hasWidth = ms.filter hasWidth → hasTwins ms' = hasTwins ms := by
  refine ⟨?_, fun ms' h => hasTwins_eq_of_perm h, ?_, ?_⟩
  · rw [← Bool.not_eq_false, hasTwins_eq_false_iff, List.pairwise_iff_getElem]
    push Not
    constructor
    · rintro ⟨i, j, hi, hj, hlt, htwins⟩
      exact ⟨i, j, hi, hj, Nat.ne_of_lt hlt, htwins⟩
    · rintro ⟨i, j, hi, hj, hne, htwins⟩
      rcases Nat.lt_or_gt_of_ne hne with hlt | hlt
      · exact ⟨i, j, hi, hj, hlt, htwins⟩
      · exact ⟨j, i, hj, hi, hlt, htwins.symm⟩
  · rintro ms' ⟨front, hperm, hsub⟩ htwins
    exact hasTwins_of_sublist hsub ((hasTwins_eq_of_perm hperm.symm).trans htwins)
  · intro ms' h
    rw [← hasTwins_filter ms', h, hasTwins_filter]

end PrinterConsole.LoadedMedia
