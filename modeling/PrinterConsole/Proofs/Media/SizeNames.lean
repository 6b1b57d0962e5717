/-
  Which names describe a size, and which size.

  A name that is not well known describes a size by its last part, what stands behind its last
  underscore: two numerals with an `x` between them, and a unit.  `Decimal`, `UnitText` and
  `Describes` tell this without the reader, and the lengths of the size as exact products.  A line
  feed may end the name, and the part in front of the last underscore must have another one.

  A product of at most 28 digits (`precision`) is kept as it is, so a numeral of at most 24 digits
  (`IsShort`) is multiplied exactly, and only the fraction of the product is dropped
  (`Measure.times_eq_floor`).

  The reader takes a numeral off the front of a text (`Decimal.readMeasure_append`), and what it
  takes is one (`exists_decimal_of_readMeasure`).  From these two halves a name that describes a
  size has its dimensions (`Describes.dimensions`), and a name that has dimensions describes a
  size (`exists_describes`).

  Main statement: `lookup_eq_some_iff_describes`.
-/
import Mathlib.Algebra.Order.Floor.Semifield
import Mathlib.Data.Rat.Floor
import PrinterConsole.Proofs.Driver.MediaBounds
import PrinterConsole.Proofs.Number.Written

namespace PrinterConsole.MediaSize

open PrinterConsole.Number PrinterConsole.Text

/-! ## The parts of a size

  The grammar of a name with dimensions, as relations between characters and rational numbers: two
  decimals with an `x` between, a unit and the end of the name or line (`Describes`). -/

/-- ASCII digits, perhaps with a point behind them and digits behind the point, and the number that
    they denote. -/
inductive Decimal : List Char → ℚ → Prop where
  | whole {ds : List Char} (hne : ds ≠ []) (hds : ∀ c ∈ ds, isAsciiDigit c = true) :
      Decimal ds (Nat.ofDigitChars 10 ds 0)
  | pointed {ds fs : List Char} (hne : ds ≠ []) (hds : ∀ c ∈ ds, isAsciiDigit c = true)
      (hfs : ∀ c ∈ fs, isAsciiDigit c = true) :
      Decimal (ds ++ '.' :: fs)
        (Nat.ofDigitChars 10 ds 0 + Nat.ofDigitChars 10 fs 0 / 10 ^ fs.length)

/-- A unit, and how many hundredths of a millimetre it is: `k` in `UnitText unit k`. -/
inductive UnitText : List Char → Nat → Prop where
  | inch : UnitText ['i', 'n'] 2540
  | millimetre : UnitText ['m', 'm'] 100

/-- The characters of a name describe a size by the numerals `w` and `l`, and its exact width and
    length are `x` and `y`. -/
inductive Describes : List Char → List Char → List Char → ℚ → ℚ → Prop where
  | size {front w l unit ending : List Char} {x y : ℚ} {k : Nat} (hfront : '_' ∈ front)
      (hw : Decimal w x) (hl : Decimal l y) (hunit : UnitText unit k)
      (hending : ending = [] ∨ ending = ['\n']) :
      Describes (front ++ '_' :: (w ++ 'x' :: (l ++ (unit ++ ending)))) w l (x * k) (y * k)

/-- The numeral `m` has at most 24 digits. -/
def IsShort (m : List Char) : Prop := m.countP isAsciiDigit ≤ 24

instance (m : List Char) : Decidable (IsShort m) := inferInstanceAs (Decidable (_ ≤ _))

/-! ## Products

  A measure times a unit is rounded down in the end.  As long as no more digits are needed than are
  kept, it is the exact product that is rounded. -/

/-- The number that a measure is: its `coefficient` with so many decimal `places`. -/
def Measure.value (m : Measure) : ℚ := m.coefficient / 10 ^ m.places

/-- **A product that is not too long is exact**, up to the fraction that `Measure.times` drops. -/
theorem Measure.times_eq_floor {m : Measure} {unit : Nat}
    (h : m.coefficient * unit < 10 ^ precision) :
    m.times unit = ⌊m.value * unit⌋₊ ∧ m.times unit < 10 ^ precision := by
  have hlength : (Nat.toDigits 10 (m.coefficient * unit)).length ≤ precision :=
    (Nat.length_toDigits_le_iff (by decide) (by decide)).2 h
  have hexcess : (Nat.toDigits 10 (m.coefficient * unit)).length - precision = 0 := by omega
  have hround : halfEven (m.coefficient * unit) 1 = m.coefficient * unit := by
    have hone := halfEven_mul (m.coefficient * unit) 1 Nat.one_pos
    rwa [Nat.mul_one] at hone
  have htimes : m.times unit = m.coefficient * unit / 10 ^ m.places := by
    unfold Measure.times
    simp only [hexcess, Nat.pow_eq, pow_zero, hround, Nat.mul_one]
  constructor
  · have hvalue : m.value * unit =
        ((m.coefficient * unit : Nat) : ℚ) / ((10 ^ m.places : Nat) : ℚ) := by
      rw [Measure.value, Nat.cast_mul, Nat.cast_pow, Nat.cast_ofNat]
      ring
    rw [htimes, hvalue, Nat.floor_div_eq_div]
  · rw [htimes]
    exact lt_of_le_of_lt (Nat.div_le_self _ _) h

/-! ## Numerals

  What is read as a measure is a decimal, digits and at most one point, and it is as much as there
  is of it. -/

theorem asciiValue_eq (ds : List Char) : asciiValue ds = Nat.ofDigitChars 10 ds 0 := by
  rw [asciiValue, digitsValue, List.foldl_map]
  rfl

theorem asciiValue_append (ds fs : List Char) :
    asciiValue (ds ++ fs) = asciiValue ds * 10 ^ fs.length + asciiValue fs := by
  rw [asciiValue, List.map_append, digitsValue_append, List.length_map]
  rfl

/-- **`readMeasure` takes a numeral off the front** of a text that goes on with something else. -/
theorem Decimal.readMeasure_append {w rest : List Char} {q : ℚ} (h : Decimal w q)
    (hr : NoDigit rest) (hpoint : ∀ more, rest ≠ '.' :: more) :
    ∃ m, readMeasure (w ++ rest) = some (m, rest) ∧ m.value = q ∧
      m.coefficient < 10 ^ w.countP isAsciiDigit := by
  have hempty : ∀ {ds : List Char}, ds ≠ [] → ds.isEmpty = false :=
    fun hne => List.isEmpty_eq_false_iff.2 hne
  cases h with
  | whole hne hds =>
    obtain ⟨htake, hdrop⟩ := takeWhile_append_of_noDigit (fun _ => isDigit_of_ascii) hds hr
    refine ⟨⟨asciiValue w, 0⟩, ?_, ?_, ?_⟩
    · -- what follows is no point, by `hpoint`, so the digits are all there is
      unfold readMeasure
      simp only [htake, hdrop, hempty hne, Bool.false_eq_true, if_false]
    · rw [Measure.value, asciiValue_eq, pow_zero, div_one]
    · rw [List.countP_eq_length.2 hds]
      exact asciiValue_lt hds
  | @pointed ds fs hne hds hfs =>
    have hdot : NoDigit ('.' :: (fs ++ rest)) := noDigit_cons (by decide) _
    obtain ⟨htake, hdrop⟩ := takeWhile_append_of_noDigit (fun _ => isDigit_of_ascii) hds hdot
    obtain ⟨htake', hdrop'⟩ := takeWhile_append_of_noDigit (fun _ => isDigit_of_ascii) hfs hr
    have hboth : ∀ c ∈ ds ++ fs, isAsciiDigit c = true := List.forall_mem_append.2 ⟨hds, hfs⟩
    refine ⟨⟨asciiValue (ds ++ fs), fs.length⟩, ?_, ?_, ?_⟩
    · rw [List.append_assoc, List.cons_append]
      unfold readMeasure
      simp only [htake, hdrop, htake', hdrop', hempty hne, Bool.false_eq_true, if_false]
    · have hpow : (10 : ℚ) ^ fs.length ≠ 0 := pow_ne_zero _ (by norm_num)
      rw [Measure.value, asciiValue_append, asciiValue_eq, asciiValue_eq, Nat.cast_add,
        Nat.cast_mul, Nat.cast_pow, Nat.cast_ofNat, add_div, mul_div_cancel_right₀ _ hpow]
    · have hcount : (ds ++ '.' :: fs).countP isAsciiDigit = (ds ++ fs).length := by
        rw [List.countP_append, List.countP_cons_of_neg (by decide), List.length_append,
          List.countP_eq_length.2 hds, List.countP_eq_length.2 hfs]
      rw [hcount]
      exact asciiValue_lt hboth

/-- What `readMeasure` takes off the front is a numeral. -/
theorem exists_decimal_of_readMeasure {cs rest : List Char} {m : Measure}
    (h : readMeasure cs = some (m, rest)) : ∃ w q, cs = w ++ rest ∧ Decimal w q := by
  have hdigits : ∀ xs : List Char, ∀ c ∈ xs.takeWhile isAsciiDigit, isAsciiDigit c = true :=
    fun xs c hc => List.mem_takeWhile_imp hc
  have hsplit : ∀ xs : List Char, xs.takeWhile isAsciiDigit ++ xs.dropWhile isAsciiDigit = xs :=
    fun xs => List.takeWhile_append_dropWhile
  unfold readMeasure at h
  dsimp only at h
  split at h
  · cases h
  · rename_i hempty
    have hne : cs.takeWhile isAsciiDigit ≠ [] := fun hnil => hempty (by rw [hnil]; rfl)
    split at h
    · rename_i more hmore
      cases h
      refine ⟨_, _, ?_, .pointed hne (hdigits cs) (hdigits more)⟩
      rw [List.append_assoc, List.cons_append, hsplit more, ← hmore, hsplit cs]
    · cases h
      exact ⟨_, _, (hsplit cs).symm, .whole hne (hdigits cs)⟩

/-- A numeral with a point, from the numbers `m` and `n` that its parts denote. -/
theorem Decimal.of_parts {ds fs : List Char} {m n : Nat} (hne : ds ≠ [])
    (hboth : ∀ c ∈ ds ++ fs, isAsciiDigit c = true) (hm : Nat.ofDigitChars 10 ds 0 = m)
    (hn : Nat.ofDigitChars 10 fs 0 = n) : Decimal (ds ++ '.' :: fs) (m + n / 10 ^ fs.length) := by
  rw [List.forall_mem_append] at hboth
  subst hm hn
  exact .pointed hne hboth.1 hboth.2

/-- A decimal has no underscore, which is why the last underscore stands in front of the
    measures. -/
theorem Decimal.notMem_underscore {w : List Char} {q : ℚ} (h : Decimal w q) : '_' ∉ w := by
  have hdigits : ∀ {ds : List Char}, (∀ c ∈ ds, isAsciiDigit c = true) → '_' ∉ ds := by
    intro ds hds hmem
    exact absurd (hds _ hmem) (by decide)
  cases h with
  | whole _ hds => exact hdigits hds
  | pointed _ hds hfs =>
    rw [List.mem_append, List.mem_cons, not_or, not_or]
    exact ⟨hdigits hds, by decide, hdigits hfs⟩

/-! ## Units and dimensions

  Two units are known.  The name ends behind the unit, a last line break apart. -/

/-- `readUnit` takes exactly a unit, with or without a line feed behind it. -/
theorem readUnit_eq_some_iff {cs : List Char} {k : Nat} :
    readUnit cs = some k ↔
      ∃ unit ending, cs = unit ++ ending ∧ UnitText unit k ∧ (ending = [] ∨ ending = ['\n']) := by
  constructor
  · intro h
    unfold readUnit at h
    split at h <;> cases h
    · exact ⟨_, [], rfl, .inch, .inl rfl⟩
    · exact ⟨_, ['\n'], rfl, .inch, .inr rfl⟩
    · exact ⟨_, [], rfl, .millimetre, .inl rfl⟩
    · exact ⟨_, ['\n'], rfl, .millimetre, .inr rfl⟩
  · rintro ⟨unit, ending, rfl, hunit, rfl | rfl⟩ <;> cases hunit <;> rfl

theorem UnitText.le {unit : List Char} {k : Nat} (h : UnitText unit k) : k ≤ 2540 := by
  cases h <;> decide

/-- A `unit` goes on neither with a digit nor with a point, and has no underscore. -/
theorem UnitText.ends {unit ending : List Char} {k : Nat} (h : UnitText unit k)
    (hending : ending = [] ∨ ending = ['\n']) :
    NoDigit (unit ++ ending) ∧ (∀ more, unit ++ ending ≠ '.' :: more) ∧ '_' ∉ unit ++ ending := by
  rcases hending with rfl | rfl <;> cases h <;>
    exact ⟨noDigit_cons (by decide) _, nofun, by decide⟩

/-- A short numeral times a unit does not leave the `precision`: 24 digits and the four of 2540. -/
theorem coefficient_mul_lt {m : Measure} {w : List Char} {k : Nat} (hshort : IsShort w)
    (hm : m.coefficient < 10 ^ w.countP isAsciiDigit) (hk : k ≤ 2540) :
    m.coefficient * k < 10 ^ precision := by
  have hm' : m.coefficient < 10 ^ 24 :=
    lt_of_lt_of_le hm (Nat.pow_le_pow_right (by decide) hshort)
  calc m.coefficient * k ≤ m.coefficient * 10 ^ 4 := Nat.mul_le_mul_left _ (by omega)
    _ < 10 ^ 24 * 10 ^ 4 := Nat.mul_lt_mul_of_pos_right hm' (by decide)
    _ = 10 ^ precision := rfl

/-- **Short numerals and a unit are read as the exact products**, the fractions dropped
    (`⌊x * k⌋₊`). -/
theorem readDimensions_append {w l unit ending : List Char} {x y : ℚ} {k : Nat} (hw : Decimal w x)
    (hl : Decimal l y) (hunit : UnitText unit k) (hending : ending = [] ∨ ending = ['\n'])
    (hshort : IsShort w) (hshort' : IsShort l) :
    readDimensions (w ++ 'x' :: (l ++ (unit ++ ending))) = some (⌊x * k⌋₊, ⌊y * k⌋₊) ∧
      ⌊x * k⌋₊ < 10 ^ precision ∧ ⌊y * k⌋₊ < 10 ^ precision := by
  obtain ⟨hend, hpoint, -⟩ := hunit.ends hending
  have hx : NoDigit ('x' :: (l ++ (unit ++ ending))) := noDigit_cons (by decide) _
  obtain ⟨m, hreadw, hvaluew, hm⟩ := hw.readMeasure_append hx nofun
  obtain ⟨n, hreadl, hvaluel, hn⟩ := hl.readMeasure_append hend hpoint
  have hreadu : readUnit (unit ++ ending) = some k :=
    readUnit_eq_some_iff.2 ⟨unit, ending, rfl, hunit, hending⟩
  obtain ⟨htimesw, hboundw⟩ := Measure.times_eq_floor (coefficient_mul_lt hshort hm hunit.le)
  obtain ⟨htimesl, hboundl⟩ := Measure.times_eq_floor (coefficient_mul_lt hshort' hn hunit.le)
  rw [hvaluew] at htimesw
  rw [hvaluel] at htimesl
  rw [htimesw] at hboundw
  rw [htimesl] at hboundl
  refine ⟨?_, hboundw, hboundl⟩
  rw [← htimesw, ← htimesl]
  unfold readDimensions
  rw [hreadw]
  show (readMeasure (l ++ (unit ++ ending)) >>= _) = _
  rw [hreadl]
  show (readUnit (unit ++ ending) >>= _) = _
  rw [hreadu]
  rfl

/-! ## Names

  The dimensions stand behind the last underscore, and there has to be another one in front of
  it. -/

/-- `splitLast` parts a name at an underscore behind which there is none. -/
theorem splitLast_append {last : List Char} (h : '_' ∉ last) (front : List Char) :
    splitLast (front ++ '_' :: last) = some (front, last) := by
  have hlast : ∀ c ∈ last.reverse, (c != '_') = true := by
    intro c hc
    rw [bne_iff_ne]
    rintro rfl
    exact h (List.mem_reverse.1 hc)
  have hreverse : (front ++ '_' :: last).reverse = last.reverse ++ '_' :: front.reverse := by
    rw [List.reverse_append, List.reverse_cons, List.append_assoc, List.singleton_append]
  have hdrop : List.dropWhile (fun c => c != '_') ('_' :: front.reverse) = '_' :: front.reverse :=
    List.dropWhile_cons_of_neg (by decide)
  have htake : List.takeWhile (fun c => c != '_') ('_' :: front.reverse) = [] :=
    List.takeWhile_cons_of_neg (by decide)
  unfold splitLast
  rw [hreverse, List.dropWhile_append_of_pos hlast, List.takeWhile_append_of_pos hlast, hdrop,
    htake]
  simp only [List.append_nil, List.reverse_reverse]

/-- `splitLast` takes out one underscore and nothing else. -/
theorem eq_of_splitLast {cs front last : List Char} (h : splitLast cs = some (front, last)) :
    cs = front ++ '_' :: last := by
  have hsplit : cs.reverse.takeWhile (· != '_') ++ cs.reverse.dropWhile (· != '_') = cs.reverse :=
    List.takeWhile_append_dropWhile
  unfold splitLast at h
  split at h
  · cases h
  · rename_i c before hdrop
    have hstop := head_dropWhile_not hdrop
    have hc : c = '_' := by simpa using hstop
    cases h
    rw [hdrop, hc] at hsplit
    have hcs := congrArg List.reverse hsplit
    rw [List.reverse_reverse, List.reverse_append, List.reverse_cons, List.append_assoc,
      List.singleton_append] at hcs
    exact hcs.symm

/-- The numerals of a name are no longer than the name, so they are `IsShort` in a name of 24
    characters. -/
theorem Describes.isShort {cs w l : List Char} {x y : ℚ} (h : Describes cs w l x y)
    (hcs : cs.length ≤ 24) : IsShort w ∧ IsShort l := by
  cases h with
  | size =>
    rw [List.length_append, List.length_cons, List.length_append, List.length_cons,
      List.length_append] at hcs
    exact ⟨List.countP_le_length.trans (by omega), List.countP_le_length.trans (by omega)⟩

/-- **A name that describes a size has its dimensions**: the exact ones without their fractions, as
    `dimensions?` reads them. -/
theorem Describes.dimensions {name : String} {w l : List Char} {x y : ℚ}
    (h : Describes name.toList w l x y) (hw : IsShort w) (hl : IsShort l) :
    dimensions? name = some (⌊x⌋₊, ⌊y⌋₊) ∧ ⌊x⌋₊ < 10 ^ precision ∧ ⌊y⌋₊ < 10 ^ precision := by
  generalize hcs : name.toList = cs at h
  cases h with
  | @size front w l unit ending x y k hfront hwidth hlength hunit hending =>
    obtain ⟨hread, hbounds⟩ := readDimensions_append hwidth hlength hunit hending hw hl
    have hlast : '_' ∉ w ++ 'x' :: (l ++ (unit ++ ending)) := by
      rw [List.mem_append, List.mem_cons, List.mem_append, not_or, not_or, not_or]
      exact ⟨hwidth.notMem_underscore, by decide, hlength.notMem_underscore,
        (hunit.ends hending).2.2⟩
    have hcontains : (!front.contains '_') = false := by
      rw [Bool.not_eq_false', List.contains_iff_mem]
      exact hfront
    refine ⟨?_, hbounds⟩
    unfold dimensions?
    rw [hcs, splitLast_append hlast]
    show (if (!front.contains '_') = true then none else readDimensions _) = _
    rw [hcontains, if_neg Bool.false_ne_true, hread]

/-- A name that has dimensions `Describes` a size. -/
theorem exists_describes {name : String} {d : Nat × Nat} (h : dimensions? name = some d) :
    ∃ w l x y, Describes name.toList w l x y := by
  unfold dimensions? at h
  obtain ⟨⟨front, last⟩, hlast, h⟩ := Option.bind_eq_some_iff.1 h
  dsimp only at h
  split at h
  · cases h
  · rename_i hfront
    have hmem : '_' ∈ front := by
      rw [← List.contains_iff_mem]
      simpa using hfront
    rw [eq_of_splitLast hlast]
    unfold readDimensions at h
    obtain ⟨⟨m, rest⟩, hm, h⟩ := Option.bind_eq_some_iff.1 h
    dsimp only at h
    split at h
    · rename_i more
      obtain ⟨⟨n, rest'⟩, hn, h⟩ := Option.bind_eq_some_iff.1 h
      obtain ⟨k, hk, -⟩ := Option.bind_eq_some_iff.1 h
      -- both measures are decimals, and the unit ends the name or the line
      obtain ⟨w, x, rfl, hw⟩ := exists_decimal_of_readMeasure hm
      obtain ⟨l, y, rfl, hl⟩ := exists_decimal_of_readMeasure hn
      obtain ⟨unit, ending, rfl, hunit, hending⟩ := readUnit_eq_some_iff.1 hk
      exact ⟨w, l, _, _, .size hmem hw hl hunit hending⟩
    · cases h

/-! ## Sizes

  Names of standard sizes are looked up first.  Of the others, those that describe two lengths of at
  least a hundredth of a millimetre are sizes. -/

/-- A size comes of `dimensions?` that both are positive. -/
theorem ofDimensions?_eq (name : String) :
    ofDimensions? name = (dimensions? name).bind fun d =>
      if d.1 = 0 ∨ d.2 = 0 then none else some ⟨name, none, d.1, d.2⟩ := by
  unfold ofDimensions? dimensions?
  cases splitLast name.toList with
  | none => rfl
  | some parts =>
    show (if _ then none else (readDimensions parts.2).bind _) =
      (if _ then none else readDimensions parts.2).bind _
    split
    · rfl
    · refine congrArg _ (funext fun d => ?_)
      simp only [Bool.or_eq_true, decide_eq_true_eq]
      split <;> rfl

/-- A name that is not well known (in `standard`) is read. -/
theorem lookup_of_not_standard {name : String} (h : ∀ s ∈ standard, s.name ≠ name) :
    lookup name = ofDimensions? name := by
  have hfind : (standard.find? fun s => s.name == name) = none := by
    rw [List.find?_eq_none]
    intro s hs
    rw [beq_iff_eq]
    exact h s hs
  rw [lookup, hfind]

/-- **A name that describes a size is looked up** as that size, if no length is below a hundredth of
    a millimetre, and as `none` otherwise. -/
theorem Describes.lookup {name : String} {w l : List Char} {x y : ℚ}
    (h : Describes name.toList w l x y) (hw : IsShort w) (hl : IsShort l)
    (hname : ∀ s ∈ standard, s.name ≠ name) :
    MediaSize.lookup name = if 1 ≤ x ∧ 1 ≤ y then some ⟨name, none, ⌊x⌋₊, ⌊y⌋₊⟩ else none := by
  obtain ⟨hdimensions, -, -⟩ := h.dimensions hw hl
  have hzero : (⌊x⌋₊ = 0 ∨ ⌊y⌋₊ = 0) ↔ ¬ (1 ≤ x ∧ 1 ≤ y) := by
    rw [Nat.floor_eq_zero, Nat.floor_eq_zero, not_and_or, not_le, not_le]
  rw [lookup_of_not_standard hname, ofDimensions?_eq, hdimensions, Option.bind_some]
  simp only [hzero, ite_not]

/-- **A name that describes a size by short numerals does not overflow**, so `overflows` does not
    keep it from being looked up. -/
theorem Describes.overflows {name : String} {w l : List Char} {x y : ℚ}
    (h : Describes name.toList w l x y) (hw : IsShort w) (hl : IsShort l) :
    MediaSize.overflows name = false := by
  obtain ⟨hdimensions, hx, hy⟩ := h.dimensions hw hl
  refine @overflows_eq_false_of_lt _ precision (by decide) ?_
  intro width length hsome
  cases hdimensions.symm.trans hsome
  exact ⟨hx, hy⟩

/-- **The sizes of names that are not well known.** If such a name `Describes` sizes by short
    numerals only, looking it up does not fail (`overflows`), and gives a size exactly if the name
    describes one of at least a hundredth of a millimetre each way: without a short name, with the
    exact lengths rounded down. -/
theorem lookup_eq_some_iff_describes {name : String} (hname : ∀ s ∈ standard, s.name ≠ name)
    (hshort : ∀ w l x y, Describes name.toList w l x y → IsShort w ∧ IsShort l) :
    overflows name = false ∧
      ∀ s, lookup name = some s ↔
        ∃ w l x y, Describes name.toList w l x y ∧ 1 ≤ x ∧ 1 ≤ y ∧
          s = ⟨name, none, ⌊x⌋₊, ⌊y⌋₊⟩ := by
  have hlookup : ∀ {w l : List Char} {x y : ℚ}, Describes name.toList w l x y →
      lookup name = if 1 ≤ x ∧ 1 ≤ y then some ⟨name, none, ⌊x⌋₊, ⌊y⌋₊⟩ else none := by
    intro w l x y h
    obtain ⟨hw, hl⟩ := hshort w l x y h
    exact h.lookup hw hl hname
  constructor
  · cases hd : dimensions? name with
    | none =>
      refine @overflows_eq_false_of_lt _ precision (by decide) ?_
      intro width length hsome
      rw [hd] at hsome
      cases hsome
    | some d =>
      obtain ⟨w, l, x, y, h⟩ := exists_describes hd
      obtain ⟨hw, hl⟩ := hshort w l x y h
      exact h.overflows hw hl
  · intro s
    constructor
    · intro hs
      -- only a name that is read gives a size, and what is read describes one
      have hread := hs
      rw [lookup_of_not_standard hname, ofDimensions?_eq] at hread
      obtain ⟨d, hd, -⟩ := Option.bind_eq_some_iff.1 hread
      obtain ⟨w, l, x, y, h⟩ := exists_describes hd
      rw [hlookup h] at hs
      split at hs
      · rename_i hone
        cases hs
        exact ⟨w, l, x, y, h, hone.1, hone.2, rfl⟩
      · cases hs
    · rintro ⟨w, l, x, y, h, hx, hy, rfl⟩
      rw [hlookup h, if_pos ⟨hx, hy⟩]

/-- A card of 3.375 by 2.125 inches, in a name with a line feed at its end: the half hundredths are
    dropped. -/
theorem lookup_card :
    overflows "ab_card_3.375x2.125in\n" = false ∧
      lookup "ab_card_3.375x2.125in\n" = some ⟨"ab_card_3.375x2.125in\n", none, 8572, 5397⟩ := by
  have hw : Decimal ['3', '.', '3', '7', '5'] (3 + 375 / 10 ^ 3) :=
    @Decimal.of_parts ['3'] ['3', '7', '5'] 3 375 nofun (List.all_eq_true.1 rfl) rfl rfl
  have hl : Decimal ['2', '.', '1', '2', '5'] (2 + 125 / 10 ^ 3) :=
    @Decimal.of_parts ['2'] ['1', '2', '5'] 2 125 nofun (List.all_eq_true.1 rfl) rfl rfl
  have hcard : Describes "ab_card_3.375x2.125in\n".toList _ _ _ _ :=
    @Describes.size "ab_card".toList _ _ _ ['\n'] _ _ _ (by decide) hw hl .inch (.inr rfl)
  have hwidth : ⌊((3 : ℚ) + 375 / 10 ^ 3) * (2540 : Nat)⌋₊ = 8572 := by
    rw [Nat.floor_eq_iff (by norm_num)]
    norm_num
  have hlength : ⌊((2 : ℚ) + 125 / 10 ^ 3) * (2540 : Nat)⌋₊ = 5397 := by
    rw [Nat.floor_eq_iff (by norm_num)]
    norm_num
  obtain ⟨hoverflows, hlookup⟩ := @lookup_eq_some_iff_describes "ab_card_3.375x2.125in\n"
    (by decide) fun _ _ _ _ h => h.isShort (by decide)
  refine ⟨hoverflows, (hlookup _).2 ⟨_, _, _, _, hcard, by norm_num, by norm_num, ?_⟩⟩
  rw [hwidth, hlength]

end PrinterConsole.MediaSize
