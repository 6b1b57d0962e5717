/-
  The name that is made for a custom size.

  The name has the source in it, and the lengths in inches at its end, with two decimal places.
  Whatever the source is, the lengths are read back: they stand behind the last underscore, since
  a number has none (`describes_customSizeName`).  Between the length and what is read of the name
  there are two roundings, to the nearest hundredth of an inch (`RoundsTo`) and down to a
  hundredth of a millimetre; `floor_near` bounds what the two can do together.

  The name describes a size in the sense of `Describes`, so what `MediaSize.lookup` finds is known
  from the grammar of size names, without a second look at the reader.

  A name of this kind is never one of the sizes to choose from (`notMem_standardSizes`), so with
  it loaded an editor shows the custom size if it can be entered, and otherwise the first size.

  Main statement: `customSizeName_describes`.
-/
import PrinterConsole.Proofs.Control.SizeSelection
import PrinterConsole.Proofs.Media.SizeNames
import PrinterConsole.Proofs.Number.Places

namespace PrinterConsole

open PrinterConsole.Number PrinterConsole.Text

/-! ## The lengths in the name

  A length is written with two decimal places, which may round it.  What is read back from the name
  is what was written. -/

namespace MediaSize

/-- A length that rounds to a hundredth at least, and is not too long, is written by `fixedText` as
    a short numeral of the rounded length. -/
theorem exists_decimal_fixedText {x : Binary64} {q : ℚ} (hx : x.exactValue? = some q)
    (hlow : 1 / 200 < q) (hhigh : q < 10 ^ 20) :
    ∃ k : Nat, RoundsTo (100 * q) k ∧ 0 < k ∧ Decimal (x.fixedText 2).toList (k / 100) ∧
      IsShort (x.fixedText 2).toList := by
  obtain ⟨k, htext, hround⟩ := Binary64.exists_fixedText_eq hx (by linarith) 2
  have hhundred : q * 10 ^ 2 = 100 * q := by ring
  rw [hhundred] at hround
  obtain ⟨fraction, hchars, hdigits, hvalue, hlength⟩ :=
    Binary64.exists_fixedDigits_eq (by decide : 0 < 2) k
  rw [← htext] at hchars
  obtain ⟨hnear, hnear'⟩ := abs_le.1 hround.1
  have hpos : 0 < k := by
    have hk : (0 : ℚ) < k := by linarith
    exact_mod_cast hk
  have hwhole : ∀ c ∈ Nat.toDigits 10 (k / 10 ^ 2), isAsciiDigit c = true :=
    fun c hc => isAsciiDigit_of_mem_toDigits hc
  refine ⟨k, hround, hpos, ?_, ?_⟩
  · -- the digits in front of the point are `k / 100`, those behind it `k % 100`
    have hdecimal := Decimal.of_parts Nat.toDigits_ne_nil
      (List.forall_mem_append.2 ⟨hwhole, hdigits⟩) Nat.ofDigitChars_ten_toDigits hvalue
    have hparts : (k : ℚ) = 10 ^ 2 * (k / 10 ^ 2 : Nat) + (k % 10 ^ 2 : Nat) := by
      exact_mod_cast (Nat.div_add_mod k (10 ^ 2)).symm
    have hsum : ((k / 10 ^ 2 : Nat) : ℚ) + (k % 10 ^ 2 : Nat) / 10 ^ fraction.length = k / 100 := by
      rw [hlength]
      linarith
    rw [hchars, ← hsum]
    exact hdecimal
  · -- at most 21 digits in front of the point and two behind it, by the bound on `q`
    have hbound : k ≤ 10 ^ 22 := by
      have hk : (k : ℚ) < 10 ^ 22 + 1 := by linarith
      have hk' : k < 10 ^ 22 + 1 := by exact_mod_cast hk
      omega
    have hshort : (Nat.toDigits 10 (k / 10 ^ 2)).length ≤ 21 :=
      (Nat.length_toDigits_le_iff (by decide) (by decide)).2 (by omega)
    rw [IsShort, hchars, List.countP_append, List.countP_cons_of_neg (by decide)]
    have hcount := List.countP_le_length (p := isAsciiDigit) (l := Nat.toDigits 10 (k / 10 ^ 2))
    have hcount' := List.countP_le_length (p := isAsciiDigit) (l := fraction)
    omega

/-! ## The name

  The name begins like all names of custom sizes, and ends with two decimals and a unit; the source
  in the middle may be any text, as only the last underscore counts. -/

/-- The characters of the name, parted before its last underscore, at the `x` and before the unit,
    as `Describes` asks for them. -/
theorem toList_customSizeName (source : String) (w l : Binary64) :
    (customSizeName source w l).toList =
      ("custom_".toList ++ source.toList) ++ '_' :: ((w.fixedText 2).toList ++
        'x' :: ((l.fixedText 2).toList ++ (['i', 'n'] ++ []))) := by
  have hunderscore : "_".toList = ['_'] := rfl
  have hx : "x".toList = ['x'] := rfl
  have hunit : "in".toList = ['i', 'n'] := rfl
  unfold customSizeName
  simp only [String.toList_append, hunderscore, hx, hunit, List.append_assoc, List.cons_append,
    List.nil_append, List.append_nil]

/-- The name begins with `custom_`, so it is a keyword of a range and not of a size. -/
theorem isCustomKeyword_customSizeName (source : String) (w l : Binary64) :
    isCustomKeyword (customSizeName source w l) = true := by
  rw [isCustomKeyword, Bool.or_eq_true]
  left
  rw [startsWith_iff, toList_customSizeName, List.append_assoc]
  exact ⟨_, rfl⟩

/-- A keyword of a range (`isCustomKeyword`) is no keyword of a size. -/
theorem ne_of_isCustomKeyword {name name' : String} (h : isCustomKeyword name = true)
    (h' : isCustomKeyword name' = false) : name' ≠ name := by
  rintro rfl
  rw [h] at h'
  cases h'

/-- A keyword of a range is in no list of sizes to choose from, which are what `standardSizes`
    leaves. -/
theorem notMem_standardSizes {name : String} (h : isCustomKeyword name = true)
    (names : List String) : name ∉ standardSizes names := by
  intro hmem
  have hstandard := (List.mem_filter.1 hmem).2
  rw [h] at hstandard
  cases hstandard

/-- Rounding to a hundredth of an inch and then down to a hundredth of a millimetre: half of 25.4 by
    the first and less than one by the second. -/
theorem floor_near {q : ℚ} {k : Nat} (h : RoundsTo (100 * q) k) :
    |(⌊(2540 * (k / 100) : ℚ)⌋₊ : ℚ) - 2540 * q| < 137 / 10 := by
  obtain ⟨hnear, hnear'⟩ := abs_le.1 h.1
  have hfloor := Nat.floor_le (show (0 : ℚ) ≤ 2540 * (k / 100) by positivity)
  have hfloor' := Nat.lt_floor_add_one (2540 * (k / 100) : ℚ)
  rw [abs_lt]
  constructor <;> linarith

/-- **The name describes the rounded lengths**, whatever the `source` is: underscores of the source
    stand before the last one. -/
theorem describes_customSizeName (source : String) {w l : Binary64} {x y : ℚ}
    (hw : Decimal (w.fixedText 2).toList x) (hl : Decimal (l.fixedText 2).toList y) :
    Describes (customSizeName source w l).toList (w.fixedText 2).toList (l.fixedText 2).toList
      (2540 * x) (2540 * y) := by
  have hfront : '_' ∈ "custom_".toList ++ source.toList := List.mem_append_left _ (by decide)
  have hname := Describes.size hfront hw hl .inch (.inl rfl)
  rw [mul_comm x, mul_comm y] at hname
  rw [toList_customSizeName]
  exact hname

/-- No well-known size has a custom keyword for its name, so `lookup` reads the dimensions. -/
theorem ne_of_mem_standard {name : String} (h : isCustomKeyword name = true) :
    ∀ s ∈ standard, s.name ≠ name := by
  have hstandard : ∀ s ∈ standard, isCustomKeyword s.name = false := by decide
  exact fun s hs => ne_of_isCustomKeyword h (hstandard s hs)

end MediaSize

open MediaSize MediaChooser

/-- **A custom keyword that is loaded is no option**: the first option is selected, and the custom
    size is shown if it can be entered (`OffersCustom`). -/
theorem editor_of_isCustomKeyword {name : String} (h : isCustomKeyword name = true)
    {o : DriverOptions} {index : Int} {keywords : List String} {media : LoadedMedia}
    {c : MediaChooser} (hkeywords : o.media = keywords.map Json.string)
    (hmedia : itemAt o.mediaReady index = .ok media) (hloaded : media.sizeName = .string name)
    (hc : ofSource o index = .ok c) :
    (∀ choice ∈ c.sizes, choice.value ≠ .string name) ∧
      (∀ k, SelectedAt c.sizes k ↔ k = 0 ∧ c.sizes ≠ []) ∧
      (c.showCustom = true ↔ OffersCustom keywords) := by
  obtain ⟨hsizes, -, hshown⟩ := sizes_of_ofSource hkeywords hmedia hc
  have hvalues := values_sizeChoices hsizes
  have hselected : ∀ k, SelectedAt c.sizes k ↔ k = 0 ∧ c.sizes ≠ [] := by
    refine selectedAt_of_unlisted hsizes fun s hs heq => ?_
    rw [hloaded] at heq
    cases heq
    exact notMem_standardSizes h keywords hs
  refine ⟨?_, hselected, ?_⟩
  · intro choice hchoice heq
    have hmem := List.mem_map_of_mem (f := (·.value)) hchoice
    rw [hvalues, heq, List.mem_append] at hmem
    rcases hmem with hmem | hmem
    · split at hmem
      · have hne : customChoice ≠ name := ne_of_isCustomKeyword h (by decide)
        exact hne (Json.string.inj (List.mem_singleton.1 hmem)).symm
      · cases hmem
    · obtain ⟨s, hs, heq'⟩ := List.mem_map.1 hmem
      cases heq'
      exact notMem_standardSizes h keywords hs
  · -- a name that is not listed leaves the first entry selected, if there is one
    rw [hshown, isSome_boundsOf, hselected]
    refine and_iff_left_of_imp fun hoffers => ⟨rfl, ?_⟩
    intro hnil
    rw [hnil, if_pos ((isSome_boundsOf keywords).2 hoffers)] at hvalues
    cases hvalues

/-- **The name that is made for a custom size describes it** (`customSizeName`).  For any source and
    lengths that round to a hundredth of an inch at least, looking the name up gives a size without
    a short name: of each length the nearest hundredth of an inch, a half going to the even one,
    rounded down to a hundredth of a millimetre, less than 13.7 of them from the length itself.  The
    name is a custom keyword and so in no list of sizes to choose from; with it loaded, no option of
    an editor has it, the first option is selected and no other, and the custom size is shown if it
    can be entered. -/
theorem customSizeName_describes (source : String) {w l : Binary64} {x y : ℚ}
    (hw : w.exactValue? = some x) (hl : l.exactValue? = some y)
    (hx : 1 / 200 < x ∧ x < 10 ^ 20) (hy : 1 / 200 < y ∧ y < 10 ^ 20) :
    let name := customSizeName source w l
    -- what the name describes
    MediaSize.overflows name = false ∧
    (∃ (a b : Nat) (size : MediaSize), RoundsTo (100 * x) a ∧ RoundsTo (100 * y) b ∧
      MediaSize.lookup name = some size ∧ size.shortName = none ∧
      size.width = ⌊(2540 * (a / 100) : ℚ)⌋₊ ∧ size.length = ⌊(2540 * (b / 100) : ℚ)⌋₊ ∧
      |(size.width : ℚ) - 2540 * x| < 137 / 10 ∧ |(size.length : ℚ) - 2540 * y| < 137 / 10) ∧
    -- what it is not
    isCustomKeyword name = true ∧
    (∀ names, name ∉ standardSizes names) ∧
    ∀ (o : DriverOptions) (index : Int) (keywords : List String) (media : LoadedMedia)
      (c : MediaChooser), o.media = keywords.map Json.string →
      itemAt o.mediaReady index = .ok media → media.sizeName = .string name →
      ofSource o index = .ok c →
        (∀ choice ∈ c.sizes, choice.value ≠ .string name) ∧
        (∀ k, SelectedAt c.sizes k ↔ k = 0 ∧ c.sizes ≠ []) ∧
        (c.showCustom = true ↔ OffersCustom keywords) := by
  intro name
  have hcustom : isCustomKeyword name = true := isCustomKeyword_customSizeName source w l
  obtain ⟨a, hrounda, ha, hdecimalw, hshortw⟩ := exists_decimal_fixedText hw hx.1 hx.2
  obtain ⟨b, hroundb, hb, hdecimall, hshortl⟩ := exists_decimal_fixedText hl hy.1 hy.2
  have hdescribes := describes_customSizeName source hdecimalw hdecimall
  have hone : ∀ {k : Nat}, 0 < k → (1 : ℚ) ≤ 2540 * (k / 100) := by
    intro k hk
    have hk' : (1 : ℚ) ≤ k := by exact_mod_cast hk
    linarith
  have hlookup : MediaSize.lookup name =
      some ⟨name, none, ⌊(2540 * (a / 100) : ℚ)⌋₊, ⌊(2540 * (b / 100) : ℚ)⌋₊⟩ := by
    rw [hdescribes.lookup hshortw hshortl (ne_of_mem_standard hcustom), if_pos ⟨hone ha, hone hb⟩]
  refine ⟨hdescribes.overflows hshortw hshortl, ⟨a, b, _, hrounda, hroundb, hlookup, rfl, rfl, rfl,
    floor_near hrounda, floor_near hroundb⟩, hcustom, notMem_standardSizes hcustom, ?_⟩
  intro o index keywords media c hkeywords hmedia hloaded hc
  exact editor_of_isCustomKeyword hcustom hkeywords hmedia hloaded hc

/-- A size of 4.125 by 0.125 inches in a roll whose name has an underscore and a line feed: both
    halves of a hundredth of an inch are dropped, and the label printer shows the custom size. -/
theorem customSizeName_describes_halves :
    ∃ (w l : Binary64) (size : MediaSize) (o : DriverOptions) (c : MediaChooser),
      w.exactValue? = some (33 / 8) ∧ l.exactValue? = some (1 / 8) ∧
      MediaSize.lookup (customSizeName "roll_1\n" w l) = some size ∧ size.width = 10464 ∧
      size.length = 304 ∧
      (o.mediaReady.map (·.sizeName)).head? = some (.string (customSizeName "roll_1\n" w l)) ∧
      ofSource o 0 = .ok c ∧ c.showCustom = true := by
  let w : Binary64 := .finite false (33 * 2 ^ 47) (-50) (by decide)
  let l : Binary64 := .finite false (2 ^ 52) (-55) (by decide)
  have hw : w.exactValue? = some (33 / 8) := congrArg some (by norm_num [zpow_neg])
  have hl : l.exactValue? = some (1 / 8) := congrArg some (by norm_num [zpow_neg])
  have hround : RoundsTo (100 * (33 / 8)) 412 := by
    constructor <;> norm_num [abs_of_pos]
  have hround' : RoundsTo (100 * (1 / 8)) 12 := by
    constructor <;> norm_num [abs_of_pos]
  let name := customSizeName "roll_1\n" w l
  let media : LoadedMedia := { DriverOptions.firstRoll with sizeName := .string name }
  let o : DriverOptions := { DriverOptions.labelPrinter with mediaReady := [media, .empty, .empty] }
  obtain ⟨htypes, hnames, hleft, htop⟩ := @showable_labelPrinter media rfl rfl
  obtain ⟨c, hc⟩ := @exists_ofSource_of_showable o 0 labelPrinterKeywords "main-roll" media rfl rfl rfl
    ⟨htypes, hnames, hleft, htop⟩
  obtain ⟨-, ⟨a, b, size, ha, hb, hlookup, -, hwidth, hlength, -, -⟩, -, -, hchooser⟩ :=
    customSizeName_describes "roll_1\n" hw hl (by norm_num) (by norm_num)
  obtain ⟨-, -, hshown⟩ := hchooser o 0 labelPrinterKeywords media c rfl rfl rfl hc
  rw [ha.unique hround] at hwidth
  rw [hb.unique hround'] at hlength
  refine ⟨w, l, size, o, c, hw, hl, hlookup, ?_, ?_, rfl, hc, hshown.2 (by decide)⟩
  · rw [hwidth, Nat.floor_eq_iff (by norm_num)]
    norm_num
  · rw [hlength, Nat.floor_eq_iff (by norm_num)]
    norm_num

end PrinterConsole
