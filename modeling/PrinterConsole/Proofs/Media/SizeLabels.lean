/-
  Labels of media sizes, and the lengths that they state.

  A size that has no wording of its own (`HasNoWording`) is stated in millimetres or in inches.
  Its width alone tells in which (`HasMetricWidth`), and a label in millimetres drops the fraction
  of both lengths.  So the width that is stated is exact, and the length is exact only if it
  happens to be whole millimetres as well.

  Labels of the other kinds cannot be taken for one in millimetres: none of them ends in an `m`
  (`getLast?_wording`, `IsInInches.getLast?`).  That is why it is enough to look at the last
  character of a label to find out of which kind it is.

  Main statement: `millimetre_label_exact_iff`.  `not_forall_millimetre_label_exact` is a card of
  54 by 85.6 millimetres.
-/
import PrinterConsole.Media.Label
import PrinterConsole.Proofs.Fault
import PrinterConsole.Proofs.Number.Whole

namespace PrinterConsole.Label

open PrinterConsole.Number PrinterConsole.Text

/-! ## Labels that state lengths

  A label states lengths in millimetres or in inches, and the size decides on that by its width
  alone. -/

/-- The label of `w` by `l` millimetres. -/
def millimetreLabel (w l : Nat) : String := natText w ++ " x " ++ natText l ++ "mm"

/-- The `label` states the size in inches, both lengths as `generalText` writes them. -/
def IsInInches (s : MediaSize) (label : String) : Prop :=
  ∃ w l, hundredthsToInches s.width = .ok w ∧ hundredthsToInches s.length = .ok l ∧
    label = w.generalText ++ " x " ++ l.generalText ++ "\""

/-- The width of `s` is whole millimetres, and is not whole inches. -/
def HasMetricWidth (s : MediaSize) : Prop :=
  s.width % hundredthsPerMillimetre = 0 ∧ s.width % hundredthsPerInch ≠ 0

instance (s : MediaSize) : Decidable (HasMetricWidth s) := inferInstanceAs (Decidable (_ ∧ _))

/-- `wholeText` fails for a number of too many digits only. -/
theorem wholeText_eq_ok_iff {n : Nat} {text : String} :
    wholeText n = .ok text ↔ isWritable n = true ∧ text = natText n := by
  unfold wholeText
  split
  · rename_i hn
    rw [Except.ok.injEq, eq_comm, and_iff_right hn]
  · rename_i hn
    exact iff_of_false nofun fun h => hn h.1

/-- The label of a metric width: whole millimetres, as far as the numbers can be written
    (`isWritable`). -/
theorem dimensions_of_metric {s : MediaSize} (h : HasMetricWidth s) {label : String} :
    dimensions s = .ok label ↔
      isWritable (s.width / hundredthsPerMillimetre : Nat) = true ∧
        isWritable (s.length / hundredthsPerMillimetre : Nat) = true ∧
        label = millimetreLabel (s.width / hundredthsPerMillimetre)
          (s.length / hundredthsPerMillimetre) := by
  rw [dimensions, if_pos (show _ ∧ _ from h), bind_eq_ok]
  constructor
  · rintro ⟨w, hw, hlabel⟩
    obtain ⟨l, hl, hlabel⟩ := bind_eq_ok.1 hlabel
    obtain ⟨hwidth, rfl⟩ := wholeText_eq_ok_iff.1 hw
    obtain ⟨hlength, rfl⟩ := wholeText_eq_ok_iff.1 hl
    exact ⟨hwidth, hlength, (Except.ok.inj hlabel).symm⟩
  · rintro ⟨hw, hl, rfl⟩
    exact ⟨_, wholeText_eq_ok_iff.2 ⟨hw, rfl⟩,
      bind_eq_ok.2 ⟨_, wholeText_eq_ok_iff.2 ⟨hl, rfl⟩, rfl⟩⟩

/-- The label of any other width is in inches (`IsInInches`). -/
theorem dimensions_of_not_metric {s : MediaSize} (h : ¬ HasMetricWidth s) {label : String} :
    dimensions s = .ok label ↔ IsInInches s label := by
  rw [dimensions, if_neg (show ¬ (_ ∧ _) from h), bind_eq_ok]
  constructor
  · rintro ⟨w, hw, hlabel⟩
    obtain ⟨l, hl, hlabel⟩ := bind_eq_ok.1 hlabel
    obtain ⟨x, hx, rfl⟩ := map_eq_ok.1 hw
    obtain ⟨y, hy, rfl⟩ := map_eq_ok.1 hl
    exact ⟨x, y, hx, hy, (Except.ok.inj hlabel).symm⟩
  · rintro ⟨x, y, hx, hy, rfl⟩
    exact ⟨_, map_eq_ok.2 ⟨x, hx, rfl⟩, bind_eq_ok.2 ⟨_, map_eq_ok.2 ⟨y, hy, rfl⟩, rfl⟩⟩

/-! ## The last character tells the kinds of labels apart

  Every kind of label ends in a way of its own: in `m`, in a quote, or as the words for names that
  have some.  So a label in millimetres is one of a metric size, whatever its name. -/

theorem getLast?_append {text : String} {c : Char} (h : text.toList.getLast? = some c)
    (front : String) : (front ++ text).toList.getLast? = some c := by
  rw [String.toList_append, List.getLast?_append, h]
  rfl

theorem getLast?_millimetreLabel (w l : Nat) :
    (millimetreLabel w l).toList.getLast? = some 'm' :=
  getLast?_append rfl _

theorem IsInInches.getLast? {s : MediaSize} {label : String} (h : IsInInches s label) :
    label.toList.getLast? = some '"' := by
  obtain ⟨w, l, -, -, rfl⟩ := h
  exact getLast?_append rfl _

/-- No wording of a `table` ends in an `m` if none of its lines does. -/
theorem getLast?_of_lookup {table : List (String × String)} {key label : String}
    (htable : ∀ line ∈ table, line.2.toList.getLast? ≠ some 'm')
    (h : table.lookup key = some label) : label.toList.getLast? ≠ some 'm' := by
  obtain ⟨front, back, rfl, -⟩ := List.lookup_eq_some_iff.1 h
  exact htable _ (List.mem_append_right _ List.mem_cons_self)

/-- No wording ends in an `m`, from whichever table `wording?` takes it. -/
theorem getLast?_wording {attr keyword label : String} (h : wording? attr keyword = some label) :
    label.toList.getLast? ≠ some 'm' := by
  have hpaper : ∀ front : String, (front ++ " Photo Paper").toList.getLast? ≠ some 'm' := by
    intro front hlast
    rw [getLast?_append rfl front] at hlast
    cases hlast
  unfold wording? at h
  split at h
  · rename_i hfixed
    obtain rfl := Option.some.inj h
    exact getLast?_of_lookup (by decide) hfixed
  · split at h
    · obtain rfl := Option.some.inj h
      decide
    · split at h
      · obtain rfl := Option.some.inj h
        unfold photoPaper
        split
        · exact hpaper _
        · decide
      · cases h

/-- The numbers of a `millimetreLabel` can be told from it, as no digit is a space or an `m`. -/
theorem millimetreLabel_inj {w l w' l' : Nat} :
    millimetreLabel w l = millimetreLabel w' l' ↔ w = w' ∧ l = l' := by
  refine ⟨fun h => ?_, fun h => by rw [h.1, h.2]⟩
  have hx : ∀ cs, NoDigit ((" x ").toList ++ cs) := fun cs => noDigit_cons (by decide) _
  have hlist := congrArg String.toList h
  simp only [millimetreLabel, String.toList_append, toList_natText, List.append_assoc] at hlist
  obtain ⟨hw, hrest⟩ := append_toDigits_inj (hx _) (hx _) hlist
  have hmm : NoDigit ("mm").toList := noDigit_cons (by decide) _
  exact ⟨hw, (append_toDigits_inj hmm hmm (List.append_cancel_left hrest)).1⟩

/-! ## The label of a size

  Names with words of their own are left aside (`HasNoWording`); all others are labelled by their
  lengths. -/

/-- Neither the `keyword` nor the short name of its size has a wording. -/
def HasNoWording (keyword : String) (s : MediaSize) : Prop :=
  wording? "media" keyword = none ∧ (s.shortName.bind fun n => sizeNames.lookup n) = none

instance (keyword : String) (s : MediaSize) : Decidable (HasNoWording keyword s) :=
  inferInstanceAs (Decidable (_ ∧ _))

variable {name : String} {s : MediaSize}

/-- A size without a wording is stated by its `dimensions`. -/
theorem ofKeyword_of_hasNoWording (hs : MediaSize.lookup name = some s)
    (h : HasNoWording name s) : ofKeyword "media" name = dimensions s := by
  rw [ofKeyword, if_pos (by decide), h.1]
  show ofSize name = _
  unfold ofSize
  rw [hs]
  dsimp only
  rw [h.2]

/-- **No wording is taken for a `millimetreLabel`**, and neither is the wording of a short name. -/
theorem hasNoWording_of_millimetreLabel (hs : MediaSize.lookup name = some s) {w l : Nat}
    (h : ofKeyword "media" name = .ok (millimetreLabel w l)) : HasNoWording name s := by
  have hm := getLast?_millimetreLabel w l
  rw [ofKeyword, if_pos (by decide)] at h
  split at h
  · rename_i label hwording
    obtain rfl := Except.ok.inj h
    exact absurd hm (getLast?_wording hwording)
  · rename_i hwording
    refine ⟨hwording, ?_⟩
    unfold ofSize at h
    rw [hs] at h
    dsimp only at h
    split at h
    · rename_i label hname
      obtain rfl := Except.ok.inj h
      obtain ⟨short, -, hname⟩ := Option.bind_eq_some_iff.1 hname
      exact absurd hm (getLast?_of_lookup (by decide) hname)
    · assumption

/-- Which sizes have a `millimetreLabel`, and with which numbers. -/
theorem ofKeyword_eq_millimetreLabel_iff (hs : MediaSize.lookup name = some s) (w l : Nat) :
    ofKeyword "media" name = .ok (millimetreLabel w l) ↔
      HasNoWording name s ∧ HasMetricWidth s ∧ w = s.width / hundredthsPerMillimetre ∧
        l = s.length / hundredthsPerMillimetre ∧ isWritable w = true ∧ isWritable l = true := by
  constructor
  · intro h
    have hplain := hasNoWording_of_millimetreLabel hs h
    rw [ofKeyword_of_hasNoWording hs hplain] at h
    by_cases hmetric : HasMetricWidth s
    · obtain ⟨hw, hl, hlabel⟩ := (dimensions_of_metric hmetric).1 h
      obtain ⟨rfl, rfl⟩ := millimetreLabel_inj.1 hlabel
      exact ⟨hplain, hmetric, rfl, rfl, hw, hl⟩
    · have hinch := ((dimensions_of_not_metric hmetric).1 h).getLast?
      rw [getLast?_millimetreLabel] at hinch
      cases hinch
  · rintro ⟨hplain, hmetric, rfl, rfl, hw, hl⟩
    rw [ofKeyword_of_hasNoWording hs hplain, dimensions_of_metric hmetric]
    exact ⟨hw, hl, rfl⟩

/-- A size without a wording is shown in inches exactly if its width is not metric, whatever its
    `length` is. -/
theorem isInInches_iff (hs : MediaSize.lookup name = some s) (h : HasNoWording name s)
    {label : String} (hlabel : ofKeyword "media" name = .ok label) :
    IsInInches s label ↔ ¬ HasMetricWidth s := by
  rw [ofKeyword_of_hasNoWording hs h] at hlabel
  constructor
  · intro hinch hmetric
    obtain ⟨-, -, rfl⟩ := (dimensions_of_metric hmetric).1 hlabel
    have hlast := hinch.getLast?
    rw [getLast?_millimetreLabel] at hlast
    cases hlast
  · exact fun hmetric => (dimensions_of_not_metric hmetric).1 hlabel

/-- **When a label in millimetres states the size.** For every `name` of a size: which sizes have a
    `millimetreLabel`, and with which numbers.  The width that is stated is the width of the size.
    The length is stated without its fraction, so it is the length of the size exactly if that is
    whole millimetres.  A size without a wording is shown in inches exactly if its width is not
    metric (`HasMetricWidth`). -/
theorem millimetre_label_exact_iff (hs : MediaSize.lookup name = some s) :
    (∀ w l, ofKeyword "media" name = .ok (millimetreLabel w l) ↔
      HasNoWording name s ∧ HasMetricWidth s ∧ w = s.width / hundredthsPerMillimetre ∧
        l = s.length / hundredthsPerMillimetre ∧ isWritable w = true ∧ isWritable l = true) ∧
    (∀ w l, ofKeyword "media" name = .ok (millimetreLabel w l) →
      s.width = 100 * w ∧ 100 * l ≤ s.length ∧ s.length < 100 * l + 100 ∧
        (s.length = 100 * l ↔ s.length % 100 = 0)) ∧
    (HasNoWording name s → ∀ label, ofKeyword "media" name = .ok label →
      (IsInInches s label ↔ ¬ HasMetricWidth s)) := by
  refine ⟨ofKeyword_eq_millimetreLabel_iff hs, ?_, fun h label => isInInches_iff hs h⟩
  intro w l h
  obtain ⟨-, hmetric, rfl, rfl, -, -⟩ := (ofKeyword_eq_millimetreLabel_iff hs w l).1 h
  have hwidth := hmetric.1
  unfold hundredthsPerMillimetre at hwidth ⊢
  omega

/-- A postcard is labelled by its lengths. -/
theorem millimetre_label_exact_iff_postcard :
    let s : MediaSize := ⟨"jpn_hagaki_100x148mm", some "Postcard", 10000, 14800⟩
    (MediaSize.lookup s.name = some s ∧
      ofKeyword "media" s.name = .ok (millimetreLabel 100 148) ∧ HasNoWording s.name s) ∧
      s.length = 100 * 148 := by
  intro s
  have hs : MediaSize.lookup s.name = some s := by decide
  obtain ⟨hlabel, hexact, -⟩ := millimetre_label_exact_iff hs
  have hshown : ofKeyword "media" s.name = .ok (millimetreLabel 100 148) :=
    (hlabel 100 148).2 ⟨by decide, by decide, by decide, by decide, isWritable_of_le (by decide),
      isWritable_of_lt_pow (k := 3) (by decide) (by decide)⟩
  exact ⟨⟨hs, hshown, by decide⟩, (hexact 100 148 hshown).2.2.2.2 (by decide)⟩

/-- A label in millimetres does not always state the size: the fraction of the length is lost. -/
theorem not_forall_millimetre_label_exact :
    ¬ ∀ (name : String) (s : MediaSize), MediaSize.lookup name = some s →
      ∀ w l, ofKeyword "media" name = .ok (millimetreLabel w l) →
        s.width = 100 * w ∧ s.length = 100 * l := by
  intro h
  let s : MediaSize := ⟨"om_card_54x85.6mm", none, 5400, 8560⟩
  have hs : MediaSize.lookup s.name = some s := by decide
  have hshown : ofKeyword "media" s.name = .ok (millimetreLabel 54 85) :=
    (ofKeyword_eq_millimetreLabel_iff hs 54 85).2
      ⟨by decide, by decide, by decide, by decide, isWritable_of_le (by decide),
        isWritable_of_le (by decide)⟩
  exact absurd (h s.name s hs 54 85 hshown).2 (by decide)

end PrinterConsole.Label
