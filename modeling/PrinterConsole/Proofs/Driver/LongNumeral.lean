/-
  Which print defaults submissions are refused, and how large the numbers are that are read.

  A field that reads as nothing is passed over, so the one thing that a submission can be refused
  for is a number of too many digits.  It is refused for such a number in any of the fields that
  are read as numbers, also in the second half of a resolution.  A number that is read has as many
  digits as its text has characters, at most.

  Everything is said of the digit runs of a text, `Form.digitRuns`: whether it is read depends on
  their lengths (`leadingInt_isOk_iff`, `resolution_isOk_iff`), and their lengths on the text
  (`length_le_of_mem_digitRuns`).

  Main statements: a submission is accepted exactly if its numerals are short
  (`applyDefaultsForm_isOk_iff`), and what is submitted in a field is below a power of ten for
  each character of its text (`Form.natAbs_lt_of_leadingInt`, `Form.natAbs_lt_of_resolution`).
-/
import PrinterConsole.Proofs.Driver.PartialUpdate
import PrinterConsole.Proofs.Number.Digits

namespace PrinterConsole

open PrinterConsole.Number PrinterConsole.Text

namespace Form

/-! ## Which numerals are refused

  The readers fail for a run of digits that is too long, and for nothing else.  A second run counts
  only where a second numeral is read. -/

/-- A numeral is a number where `wholeOf` gives it one. -/
theorem numberOf_eq_ok_iff {n : Bool × List Nat} {k : Int} :
    numberOf n = .ok k ↔ wholeOf n.1 n.2 = some k := by
  unfold numberOf
  split
  · rename_i m hm
    rw [hm, Except.ok.injEq, Option.some.injEq]
  · rename_i hnone
    rw [hnone]
    exact iff_of_false nofun nofun

/-- **A numeral is a number exactly if it is short**: `leadingDigits` gives it a digit at least, so
    its length is all that counts. -/
theorem numberOf_isOk_iff {cs rest : List Char} {n : Bool × List Nat}
    (h : leadingDigits cs = some (n, rest)) :
    (∃ k, numberOf n = .ok k) ↔ n.2.length ≤ maxDigits := by
  constructor
  · rintro ⟨k, hk⟩
    rw [numberOf_eq_ok_iff] at hk
    by_contra hlong
    rw [wholeOf_eq_none_iff.2 (.inr (by omega))] at hk
    cases hk
  · intro hshort
    exact exists_numberOf h hshort

/-- A text that begins with no numeral has no `digitRuns`. -/
theorem digitRuns_of_none {text : String} (h : leadingDigits (trimStart text.toList) = none) :
    digitRuns text = [] := by
  rw [digitRuns, h]

/-- A text that begins with a numeral has its run, and perhaps a second one after an `x`. -/
theorem digitRuns_of_some {text : String} {rest : List Char} {n : Bool × List Nat}
    (h : leadingDigits (trimStart text.toList) = some (n, rest)) :
    digitRuns text = n.2 :: secondRun rest := by
  rw [digitRuns, h]

/-- A text is read as a number or as nothing, unless its first run is longer than `maxDigits`. -/
theorem leadingInt_isOk_iff {text : String} :
    (∃ r, leadingInt text = .ok r) ↔ ∀ run ∈ (digitRuns text).take 1, run.length ≤ maxDigits := by
  refine ⟨?_, exists_leadingInt⟩
  rintro ⟨r, hr⟩
  unfold leadingInt at hr
  split at hr
  · rename_i hnone
    rw [digitRuns_of_none hnone]
    exact List.forall_mem_nil _
  · rename_i n rest hsome
    obtain ⟨k, hk, -⟩ := map_eq_ok.1 hr
    rw [digitRuns_of_some hsome]
    exact List.forall_mem_singleton.2 ((numberOf_isOk_iff hsome).1 ⟨k, hk⟩)

/-- A text is read as a resolution or as nothing, unless one of its two runs is longer than
    `maxDigits`. -/
theorem resolution_isOk_iff {text : String} :
    (∃ r, resolution text = .ok r) ↔ ∀ run ∈ digitRuns text, run.length ≤ maxDigits := by
  refine ⟨?_, exists_resolution⟩
  rintro ⟨r, hr⟩
  unfold resolution at hr
  split at hr
  · rename_i hnone
    rw [digitRuns_of_none hnone]
    exact List.forall_mem_nil _
  · rename_i n rest hsome
    obtain ⟨x, hx, hr⟩ := bind_eq_ok.1 hr
    have hfirst := (numberOf_isOk_iff hsome).1 ⟨x, hx⟩
    -- the first run is converted in any case, the second one only behind an `x`
    rw [digitRuns_of_some hsome, List.forall_mem_cons]
    refine ⟨hfirst, ?_⟩
    split at hr
    · rename_i more
      split at hr
      · rename_i m _ hm
        obtain ⟨y, hy, -⟩ := bind_eq_ok.1 hr
        have hsecond := (numberOf_isOk_iff hm).1 ⟨y, hy⟩
        simpa [secondRun, hm] using hsecond
      · rename_i hm
        simp [secondRun, hm]
    · rename_i hx'
      unfold secondRun
      split
      · rename_i more
        exact absurd rfl (hx' more)
      · exact List.forall_mem_nil _

/-! ## How large a number is

  A number that is read has no more digits than the text has characters. -/

/-- The digits that `leadingDigits` takes are among the characters of its text, and each is below
    ten. -/
theorem leadingDigits_spec {cs rest : List Char} {n : Bool × List Nat}
    (h : leadingDigits cs = some (n, rest)) :
    (∀ d ∈ n.2, d < 10) ∧ n.2.length + rest.length ≤ cs.length := by
  have hsigned : (signed cs).2.length ≤ cs.length := by
    unfold signed
    split
    · exact Nat.le_succ _
    · exact Nat.le_succ _
    · exact Nat.le_refl _
  have hrun : (digitRun (signed cs).2).1.length + (digitRun (signed cs).2).2.length ≤
      (signed cs).2.length := by
    have hsplit := congrArg List.length
      (List.takeWhile_append_dropWhile (p := isDigit) (l := (signed cs).2))
    have hvalues := List.length_filterMap_le digitValue? ((signed cs).2.takeWhile isDigit)
    rw [List.length_append] at hsplit
    simp only [digitRun]
    omega
  have hdigits : ∀ d ∈ (digitRun (signed cs).2).1, d < 10 := by
    intro d hd
    obtain ⟨c, -, hc⟩ := List.mem_filterMap.1 hd
    exact digitValue?_lt hc
  unfold leadingDigits at h
  dsimp only at h
  split at h
  · cases h
  · rename_i heq
    cases h
    rw [heq] at hrun hdigits
    exact ⟨hdigits, hrun.trans hsigned⟩

theorem length_trimStart_le (cs : List Char) : (trimStart cs).length ≤ cs.length :=
  (List.dropWhile_sublist _).length_le

/-- **The runs that `digitRuns` tells are among the characters of the text.** -/
theorem length_le_of_mem_digitRuns {text : String} {run : List Nat} (h : run ∈ digitRuns text) :
    run.length ≤ text.length := by
  have htrim := length_trimStart_le text.toList
  rw [String.length_toList] at htrim
  cases hfound : leadingDigits (trimStart text.toList) with
  | none =>
    rw [digitRuns_of_none hfound] at h
    cases h
  | some found =>
    obtain ⟨n, rest⟩ := found
    rw [digitRuns_of_some hfound] at h
    have hfirst := (leadingDigits_spec hfound).2
    rcases List.mem_cons.1 h with rfl | h
    · omega
    · -- the second run stands behind the first one
      unfold secondRun at h
      split at h
      · rename_i more
        obtain ⟨⟨m, left⟩, hm, rfl⟩ := Option.map_eq_some_iff.1 (Option.mem_toList.1 h)
        have hsecond := (leadingDigits_spec hm).2
        rw [List.length_cons] at hfirst
        show m.2.length ≤ _
        omega
      · cases h

/-- A number (`numberOf`) has as many digits as its numeral, at most, hence as many as characters
    were read for it. -/
theorem natAbs_lt_of_numberOf {cs rest : List Char} {n : Bool × List Nat} {k : Int}
    (h : leadingDigits cs = some (n, rest)) (hk : numberOf n = .ok k) :
    k.natAbs < 10 ^ (cs.length - rest.length) := by
  obtain ⟨hdigits, hlength⟩ := leadingDigits_spec h
  have hvalue : k.natAbs = digitsValue n.2 := by
    rw [numberOf_eq_ok_iff] at hk
    unfold wholeOf at hk
    split at hk
    · cases hk
    · cases hk
      split
      · rw [Int.natAbs_neg, Int.natAbs_natCast]
      · rw [Int.natAbs_natCast]
  calc k.natAbs = digitsValue n.2 := hvalue
    _ < 10 ^ n.2.length := digitsValue_lt hdigits
    _ ≤ 10 ^ (cs.length - rest.length) := Nat.pow_le_pow_right (by decide) (by omega)

theorem natAbs_lt_of_front {text : String} {rest : List Char} {n : Bool × List Nat} {k : Int}
    (h : leadingDigits (trimStart text.toList) = some (n, rest)) (hk : numberOf n = .ok k) :
    k.natAbs < 10 ^ (text.length - rest.length) := by
  have htrim := length_trimStart_le text.toList
  rw [String.length_toList] at htrim
  exact lt_of_lt_of_le (natAbs_lt_of_numberOf h hk)
    (Nat.pow_le_pow_right (by decide) (by omega))

/-- **The number at the start of a `text` is below a power of ten for each character.** -/
theorem natAbs_lt_of_leadingInt {text : String} {k : Int} (h : leadingInt text = .ok (some k)) :
    k.natAbs < 10 ^ text.length := by
  unfold leadingInt at h
  split at h
  · cases h
  · rename_i n rest hsome
    obtain ⟨m, hm, hk⟩ := map_eq_ok.1 h
    cases hk
    exact lt_of_lt_of_le (natAbs_lt_of_front hsome hm)
      (Nat.pow_le_pow_right (by decide) (Nat.sub_le _ _))

/-- **Both numbers of a `resolution` are below a power of ten for each character.** -/
theorem natAbs_lt_of_resolution {text : String} {x y : Int}
    (h : resolution text = .ok (some (x, y))) :
    x.natAbs < 10 ^ text.length ∧ y.natAbs < 10 ^ text.length := by
  unfold resolution at h
  split at h
  · cases h
  · rename_i n rest hsome
    obtain ⟨first, hfirst, h⟩ := bind_eq_ok.1 h
    have hx : first.natAbs < 10 ^ text.length :=
      lt_of_lt_of_le (natAbs_lt_of_front hsome hfirst)
        (Nat.pow_le_pow_right (by decide) (Nat.sub_le _ _))
    split at h
    · rename_i more
      split at h
      · rename_i m _ hm
        obtain ⟨second, hsecond, h⟩ := bind_eq_ok.1 h
        cases h
        refine ⟨hx, lt_of_lt_of_le (natAbs_lt_of_numberOf hm hsecond) ?_⟩
        -- the second number stands behind the first one
        have hbehind := (leadingDigits_spec hsome).2
        have htrim := length_trimStart_le text.toList
        rw [String.length_toList] at htrim
        rw [List.length_cons] at hbehind
        exact Nat.pow_le_pow_right (by decide) (by omega)
      · cases h
        exact ⟨hx, hx⟩
    · cases h
      exact ⟨hx, hx⟩

end Form

namespace DriverOptions

/-! ## Which submissions are accepted

  A form is accepted exactly if all its numerals are short.  The media come into it by a source
  without an entry, which `Aligned` options do not have. -/

/-- A `wholeField` that could be read has a short first run. -/
theorem short_of_wholeField {f : Form} {name : String} {r : Option Int}
    (h : DefaultsChange.wholeField f name = .ok r) :
    ∀ text ∈ f.value? name, ∀ run ∈ (Form.digitRuns text).take 1, run.length ≤ maxDigits := by
  intro text htext
  rw [← Form.leadingInt_isOk_iff]
  unfold DefaultsChange.wholeField at h
  rw [Option.mem_def.1 htext] at h
  exact ⟨r, h⟩

/-- A `resolutionField` that could be read has short runs. -/
theorem short_of_resolutionField {f : Form} {r : Option (Int × Int)}
    (h : DefaultsChange.resolutionField f = .ok r) :
    ∀ text ∈ f.value? "printer-resolution", ∀ run ∈ Form.digitRuns text,
      run.length ≤ maxDigits := by
  intro text htext
  rw [← Form.resolution_isOk_iff]
  unfold DefaultsChange.resolutionField at h
  rw [Option.mem_def.1 htext] at h
  exact ⟨r, h⟩

/-- **A submission is accepted exactly if its numerals are short**: from right to left it is
    `applyDefaultsForm_eq`, from left to right each field that was read had short runs. -/
theorem applyDefaultsForm_isOk_iff {f : Form} {o : DriverOptions} (ho : o.Aligned) :
    (∃ r, applyDefaultsForm f o = .ok r) ↔ HasShortNumerals f := by
  constructor
  · rintro ⟨r, hr⟩
    obtain ⟨c, hc, -⟩ := bind_eq_ok.1 hr
    simp only [DefaultsChange.ofForm, bind_eq_ok] at hc
    obtain ⟨_, horientation, _, hdarkness, speed, hspeed, resolution, hresolution, -⟩ := hc
    intro d text htext
    cases d with
    | orientation => exact short_of_wholeField horientation text htext
    | darkness => exact short_of_wholeField hdarkness text htext
    | speed => exact short_of_wholeField hspeed text htext
    | resolution => exact short_of_resolutionField hresolution text htext
    | color | content | quality | scaling | sides | media => exact List.forall_mem_nil _
  · intro hshort
    exact ⟨_, applyDefaultsForm_eq hshort ho⟩

/-- The numerals of a text that is not too long are short, by `length_le_of_mem_digitRuns`. -/
theorem short_of_mem_digitRuns {text : String} (h : text.length ≤ maxDigits) (d : Default) :
    ∀ run ∈ d.digitRuns text, run.length ≤ maxDigits := by
  intro run hrun
  have hmem : run ∈ Form.digitRuns text := by
    cases d with
    | orientation | darkness | speed => exact List.mem_of_mem_take hrun
    | resolution => exact hrun
    | color | content | quality | scaling | sides | media => cases hrun
  exact (Form.length_le_of_mem_digitRuns hmem).trans h

end DriverOptions

end PrinterConsole
