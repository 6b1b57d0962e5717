/-
  Whether the inputs of a custom size stay within their bounds.

  The bounds of the range are read from two keywords, each of which has its own bound in reserve,
  and nothing compares them.  Clamping raises a length to the least bound and lowers it to the
  greatest one after that, so it comes to a size within the range exactly if the bounds are in
  order (`covers_clamp_iff`); if they are not, it comes to the greatest bound, which is below the
  least (`clampLength_of_lt`).

  An input shows its bounds and its value in inches with two decimal places.  Rounding keeps the
  order (`inches_mono`), so the value is shown within bounds that are in order.  The converse
  needs the bounds as they are shown, since two lengths may be shown as the same inches:
  `isWithin_iff` speaks of the input, and `isOrdered_ofKeywords_iff` of what the keywords
  describe.

  Main statement: `custom_inputs_within_iff`.  `not_forall_custom_inputs_within` is a printer of
  small labels whose least size cannot be read.
-/
import PrinterConsole.Proofs.Control.SizeSelection
import PrinterConsole.Proofs.Number.Order

namespace PrinterConsole

open PrinterConsole.Number

namespace CustomRange

/-! ## Clamping

  To clamp a length is to take the maximum with one bound and then the minimum with the other, so it
  is within both exactly if the bounds are in order. -/

/-- No least length of the range `r` is above the greatest one, neither of the widths nor of the
    lengths. -/
def IsOrdered (r : CustomRange) : Prop := r.minWidth ≤ r.maxWidth ∧ r.minLength ≤ r.maxLength

/-- The `size` is within the range, in both of its lengths. -/
def Covers (r : CustomRange) (size : Int × Int) : Prop :=
  (r.minWidth ≤ size.1 ∧ size.1 ≤ r.maxWidth) ∧ r.minLength ≤ size.2 ∧ size.2 ≤ r.maxLength

/-- A length between the bounds is left alone by both steps of `clampLength`. -/
theorem clampLength_eq_self {low high : Nat} {x : Int} (hlow : low ≤ x) (hhigh : x ≤ high) :
    clampLength low high x = x := by
  unfold clampLength
  omega

/-- A clamped length (`clampLength`) is within the bounds exactly if they are in order, whatever the
    length was. -/
theorem clampLength_within_iff (low high : Nat) (x : Int) :
    low ≤ clampLength low high x ∧ clampLength low high x ≤ high ↔ low ≤ high := by
  unfold clampLength
  omega

/-- Bounds that are not in order leave the greatest one, as the last step of `clampLength` is the
    one that lowers. -/
theorem clampLength_of_lt {low high : Nat} (h : high < low) (x : Int) :
    clampLength low high x = high := by
  unfold clampLength
  omega

/-- **Clamping keeps a size that is within the range**: `clampLength_eq_self` for each of its
    lengths. -/
theorem clamp_of_covers {r : CustomRange} {width length : Int} (h : r.Covers (width, length)) :
    r.clamp width length = (width, length) := by
  obtain ⟨⟨hwidth, hwidth'⟩, hlength, hlength'⟩ := h
  rw [clamp, clampLength_eq_self hwidth hwidth', clampLength_eq_self hlength hlength']

/-- **Clamping comes to a size within the range** exactly if its bounds are in order:
    `clampLength_within_iff` for each of its lengths. -/
theorem covers_clamp_iff (r : CustomRange) (width length : Int) :
    r.Covers (r.clamp width length) ↔ r.IsOrdered :=
  and_congr (clampLength_within_iff _ _ _) (clampLength_within_iff _ _ _)

/-! ## The bounds of two keywords

  A keyword that describes no size leaves the bound in reserve, so the range is in order by four
  cases (`AreOrdered`). -/

/-- What the keywords `least` and `most` describe is in order: both sizes, or the one that can be
    read and the bound in reserve for the other. -/
def AreOrdered (least most : String) : Prop :=
  match MediaSize.lookup least, MediaSize.lookup most with
  | some s, some t => s.width ≤ t.width ∧ s.length ≤ t.length
  | some s, none => s.width ≤ 9 * 2540 ∧ s.length ≤ 22 * 2540
  | none, some t => 2540 ≤ t.width ∧ 2540 ≤ t.length
  | none, none => True

/-- Whether the range is in order, said of the two keywords: the four cases are those of
    `CustomRange.ofKeywords`. -/
theorem isOrdered_ofKeywords_iff (least most : String) :
    (ofKeywords least most).IsOrdered ↔ AreOrdered least most := by
  unfold IsOrdered ofKeywords AreOrdered
  cases MediaSize.lookup least with
  | none =>
    cases MediaSize.lookup most with
    | none => exact iff_of_true ⟨by decide, by decide⟩ trivial
    | some t => exact Iff.rfl
  | some s =>
    cases MediaSize.lookup most with
    | none => exact Iff.rfl
    | some t => exact Iff.rfl

end CustomRange

/-! ## Number inputs

  The editor shows lengths in inches.  Rounding keeps their order, hence bounds that are in order
  are shown in order, but bounds that are not may become equal. -/

/-- The value of the input `i` is between its bounds, as they are shown. -/
def NumberInput.IsWithin (i : NumberInput) : Prop :=
  i.minimum.AtMost i.value ∧ i.value.AtMost i.maximum

namespace MediaChooser

/-- The input shows the length `value` between `low` and `high`, in inches. -/
def ShowsLength (i : NumberInput) (low high value : Int) : Prop :=
  inches low = .ok i.minimum ∧ inches high = .ok i.maximum ∧ inches value = .ok i.value

/-- What `lengthInput` makes shows the length it is given, between the two bounds. -/
theorem showsLength_of_lengthInput {name : String} {low high value : Int} {i : NumberInput}
    (h : lengthInput name low high value = .ok i) : ShowsLength i low high value := by
  obtain ⟨least, hleast, h⟩ := bind_eq_ok.1 h
  obtain ⟨most, hmost, h⟩ := bind_eq_ok.1 h
  obtain ⟨shown, hshown, h⟩ := bind_eq_ok.1 h
  cases h
  exact ⟨hleast, hmost, hshown⟩

/-- **A lesser length is shown as no more inches** (`Binary64.AtMost`): the quotient by an inch and
    the rounding to two places are both monotone. -/
theorem inches_mono {n n' : Int} {x y : Binary64} (hn : 0 ≤ n) (hle : n ≤ n')
    (hx : inches n = .ok x) (hy : inches n' = .ok y) : x.AtMost y := by
  obtain ⟨a, ha, rfl⟩ := inches_eq_ok_iff.1 hx
  obtain ⟨b, hb, rfl⟩ := inches_eq_ok_iff.1 hy
  obtain ⟨p, q, hp, hq, hpq⟩ := Binary64.quotient?_mono (by decide) hn hle ha hb
  exact Binary64.roundPlaces_mono hp hq hpq 2

section Shown

variable {i : NumberInput} {low high : Nat} {x : Int}

/-- A clamped length is shown within bounds that are in order, by `inches_mono` on either side of
    it. -/
theorem isWithin_of_le (h : ShowsLength i low high (CustomRange.clampLength low high x))
    (hle : low ≤ high) : i.IsWithin := by
  obtain ⟨hmin, hmax, hvalue⟩ := h
  obtain ⟨hlow, hhigh⟩ := (CustomRange.clampLength_within_iff low high x).2 hle
  exact ⟨inches_mono (by omega) hlow hmin hvalue, inches_mono (by omega) hhigh hvalue hmax⟩

/-- **A clamped length is shown within the bounds** exactly if these are shown in order.  If the
    bounds are not in order the length is the greatest one (`clampLength_of_lt`), so the two sides
    are the same comparison. -/
theorem isWithin_iff (h : ShowsLength i low high (CustomRange.clampLength low high x)) :
    i.IsWithin ↔ i.minimum.AtMost i.maximum := by
  refine ⟨fun hwithin => hwithin.1.trans hwithin.2, fun hbounds => ?_⟩
  rcases le_or_gt low high with hle | hlt
  · exact isWithin_of_le h hle
  · -- what is shown is the greatest bound
    obtain ⟨-, hmax, hvalue⟩ := h
    rw [CustomRange.clampLength_of_lt hlt] at hvalue
    obtain hsame : i.maximum = i.value := Except.ok.inj (hmax.symm.trans hvalue)
    refine ⟨hsame ▸ hbounds, inches_mono (by omega) le_rfl hvalue hmax⟩

end Shown

/-- The inputs of an editor, from the range that the keywords announce: `ofSource` makes both of
    them from one range and one size. -/
theorem inputs_of_ofSource {o : DriverOptions} {index : Int} {keywords : List String}
    {least most : String} {media : LoadedMedia} {c : MediaChooser}
    (hfound : findCustomRange keywords = (some least, some most))
    (hkeywords : o.media = keywords.map Json.string) (hmedia : itemAt o.mediaReady index = .ok media)
    (hc : ofSource o index = .ok c) :
    let r := CustomRange.ofKeywords least most
    ∃ w l, c.customWidth = some w ∧ c.customLength = some l ∧
      ShowsLength w r.minWidth r.maxWidth (r.clamp media.width media.length).1 ∧
      ShowsLength l r.minLength r.maxLength (r.clamp media.width media.length).2 := by
  intro r
  obtain ⟨_, media', keywords', sizes, inputs, types, title, left, top, -, hmedia', hkeywords', -,
    hinputs, -, -, -, -, rfl⟩ := ofSource_eq_ok_iff.1 hc
  rw [mapM_sizeKeyword hkeywords] at hkeywords'
  cases hkeywords'
  rw [hmedia] at hmedia'
  cases hmedia'
  have hbounds : boundsOf keywords = some (least, most) := by rw [boundsOf, hfound]
  rw [hbounds] at hinputs
  obtain ⟨pair, hpair, hinputs⟩ := bind_eq_ok.1 hinputs
  cases hinputs
  obtain ⟨w, hw, hpair⟩ := bind_eq_ok.1 hpair
  obtain ⟨l, hl, hpair⟩ := bind_eq_ok.1 hpair
  cases hpair
  exact ⟨w, l, rfl, rfl, showsLength_of_lengthInput hw, showsLength_of_lengthInput hl⟩

/-- **When custom inputs are within their bounds.** For every list of keywords with both bounds of
    custom sizes: exactly when the range is in order (`AreOrdered`).  Clamping keeps every size
    within the range, and comes to a size within it exactly if the range is in order.  An editor
    with these keywords, which is there if no number on it is too large, has both inputs, bounded by
    the range and filled with the clamped size; the value of each is within its bounds exactly if
    these are shown in order, and so whenever the range is in order. -/
theorem custom_inputs_within_iff {keywords : List String} {least most : String}
    (hfound : findCustomRange keywords = (some least, some most)) :
    let r := CustomRange.ofKeywords least most
    (r.IsOrdered ↔ CustomRange.AreOrdered least most) ∧
    (∀ width length, r.Covers (width, length) → r.clamp width length = (width, length)) ∧
    (∀ width length, r.Covers (r.clamp width length) ↔ r.IsOrdered) ∧
    ∀ (o : DriverOptions) (index : Int) (media : LoadedMedia),
      o.media = keywords.map Json.string → itemAt o.mediaReady index = .ok media →
      (∀ source, itemAt o.sources index = .ok (.string source) → Showable o keywords media →
        ∃ c, ofSource o index = .ok c) ∧
      ∀ c, ofSource o index = .ok c →
        ∃ w l, c.customWidth = some w ∧ c.customLength = some l ∧
          ShowsLength w r.minWidth r.maxWidth (r.clamp media.width media.length).1 ∧
          ShowsLength l r.minLength r.maxLength (r.clamp media.width media.length).2 ∧
          (w.IsWithin ↔ w.minimum.AtMost w.maximum) ∧
          (l.IsWithin ↔ l.minimum.AtMost l.maximum) ∧
          (r.IsOrdered → w.IsWithin ∧ l.IsWithin) := by
  intro r
  refine ⟨CustomRange.isOrdered_ofKeywords_iff least most, fun _ _ => CustomRange.clamp_of_covers,
    CustomRange.covers_clamp_iff r, ?_⟩
  intro o index media hkeywords hmedia
  refine ⟨fun source hsource hshow => exists_ofSource_of_showable hkeywords hsource hmedia hshow,
    fun c hc => ?_⟩
  obtain ⟨w, l, hwidth, hlength, hw, hl⟩ := inputs_of_ofSource hfound hkeywords hmedia hc
  exact ⟨w, l, hwidth, hlength, hw, hl, isWithin_iff hw, isWithin_iff hl,
    fun hordered => ⟨isWithin_of_le hw hordered.1, isWithin_of_le hl hordered.2⟩⟩

/-- The inputs for the first roll of the label printer are within their bounds. -/
theorem custom_inputs_within_iff_first_roll :
    findCustomRange labelPrinterKeywords =
        (some "roll_min_0.75x0.25in", some "roll_max_4.25x22in") ∧
      ∃ c w l, ofSource .labelPrinter 0 = .ok c ∧ c.customWidth = some w ∧
        c.customLength = some l ∧ w.IsWithin ∧ l.IsWithin := by
  have hfound : findCustomRange labelPrinterKeywords =
      (some "roll_min_0.75x0.25in", some "roll_max_4.25x22in") := by decide
  obtain ⟨hordered, -, -, heditor⟩ := custom_inputs_within_iff hfound
  have hranges : CustomRange.AreOrdered "roll_min_0.75x0.25in" "roll_max_4.25x22in" := by
    have hleast : MediaSize.lookup "roll_min_0.75x0.25in" =
        some ⟨"roll_min_0.75x0.25in", none, 1905, 635⟩ := by decide +kernel
    have hmost : MediaSize.lookup "roll_max_4.25x22in" =
        some ⟨"roll_max_4.25x22in", none, 10795, 55880⟩ := by decide +kernel
    rw [CustomRange.AreOrdered, hleast, hmost]
    decide
  obtain ⟨hexists, hinputs⟩ := heditor .labelPrinter 0 DriverOptions.firstRoll rfl rfl
  obtain ⟨c, hc⟩ := hexists "main-roll" rfl (showable_labelPrinter rfl rfl)
  obtain ⟨w, l, hwidth, hlength, -, -, -, -, hwithin⟩ := hinputs c hc
  obtain ⟨hw, hl⟩ := hwithin (hordered.2 hranges)
  exact ⟨hfound, c, w, l, hc, hwidth, hlength, hw, hl⟩

/-- An inch is more than three quarters, also as floats. -/
theorem not_atMost_inches {x y : Binary64} (hx : inches 2540 = .ok x) (hy : inches 1905 = .ok y) :
    ¬ x.AtMost y := by
  have hone : inches 2540 = .ok (.finite false 4503599627370496 (-52) (by decide)) :=
    eq_ok_of_toOption (by decide +kernel)
  have hless : inches 1905 = .ok (.finite false 6755399441055744 (-53) (by decide)) :=
    eq_ok_of_toOption (by decide +kernel)
  obtain rfl := Except.ok.inj (hone.symm.trans hx)
  obtain rfl := Except.ok.inj (hless.symm.trans hy)
  rintro ⟨p, q, hp, hq, hle⟩
  cases hp
  cases hq
  norm_num at hle

/-- Custom inputs are not always within their bounds.  If the least size cannot be read and the
    greatest one is less than an inch, the range is not in order (`CustomRange.IsOrdered`), no size
    is clamped into it, and the input for the width shows a value below its least one. -/
theorem not_forall_custom_inputs_within :
    (¬ ∀ keywords least most, findCustomRange keywords = (some least, some most) →
      (CustomRange.ofKeywords least most).IsOrdered) ∧
    (¬ ∀ keywords least most, findCustomRange keywords = (some least, some most) →
      ∀ width length, (CustomRange.ofKeywords least most).Covers
        ((CustomRange.ofKeywords least most).clamp width length)) ∧
    ¬ ∀ (o : DriverOptions) (index : Int) (keywords : List String) (least most : String)
      (c : MediaChooser), findCustomRange keywords = (some least, some most) →
        o.media = keywords.map Json.string → ofSource o index = .ok c →
          ∀ w, c.customWidth = some w → w.IsWithin := by
  let keywords := ["custom_min_small", "custom_max_0.75x0.5in"]
  have hfound : findCustomRange keywords =
      (some "custom_min_small", some "custom_max_0.75x0.5in") := by decide
  have hrange : CustomRange.ofKeywords "custom_min_small" "custom_max_0.75x0.5in" =
      ⟨2540, 2540, 1905, 1270⟩ := by decide +kernel
  have hinverted : ¬ (CustomRange.ofKeywords "custom_min_small" "custom_max_0.75x0.5in").IsOrdered := by
    rw [hrange]
    exact fun h => absurd h.1 (by decide)
  refine ⟨fun h => hinverted (h keywords _ _ hfound), fun h => hinverted ?_, fun h => ?_⟩
  · exact (CustomRange.covers_clamp_iff _ 1000 1000).1 (h keywords _ _ hfound 1000 1000)
  · let o := { DriverOptions.labelPrinter with media := keywords.map Json.string }
    have hshow : Showable o keywords DriverOptions.firstRoll := by
      refine ⟨?_, by decide, ⟨0, 0, rfl, by decide⟩, ⟨-1500, 1500, rfl, by decide⟩⟩
      simp [o, DriverOptions.labelPrinter]
    obtain ⟨c, hc⟩ := @exists_ofSource_of_showable o 0 keywords "main-roll" _ rfl rfl rfl hshow
    obtain ⟨w, l, hwidth, -, hw, -⟩ := inputs_of_ofSource hfound rfl rfl hc
    have hwithin := (isWithin_iff hw).1 (h o 0 keywords _ _ c hfound rfl hc w hwidth)
    obtain ⟨hmin, hmax, -⟩ := hw
    rw [hrange] at hmin hmax
    exact not_atMost_inches hmin hmax hwithin

end MediaChooser

end PrinterConsole
