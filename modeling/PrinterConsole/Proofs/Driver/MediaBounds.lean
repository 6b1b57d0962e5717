/-
  How large the numbers of submitted media are, and which media are accepted.

  The lengths of a size are read from its name, at a precision of 28 digits; rounding can carry a
  length to the next power of ten, and no further (`Measure.times_le`).  So a length is below a
  power of ten for each character of the name, with four more for the unit, and only a name of
  about a million characters can overflow.  A custom length and an offset are products of binary
  floating-point numbers, whose range ends far below.

  The bounds go along the reader: `readMeasure_spec` for one measure, `readDimensions_le` for two
  with their unit, `lookup_lt` for a name.  They are what makes a saved file of submitted media
  writable, and what an editor needs to be shown.

  Main statements: the lengths that a size name stands for (`MediaSize.lookup_lt`) and those of a
  measurement (`Form.natAbs_lt_of_measurement`), and that a submission is accepted exactly if its
  sizes are in range (`DriverOptions.submitMediaForm_eq_ok_iff`).
-/
import Mathlib.Data.List.TakeWhile
import PrinterConsole.Driver.MediaForm
import PrinterConsole.Proofs.Number.Digits

namespace PrinterConsole

open PrinterConsole.Number PrinterConsole.Text

/-! ## Floating-point numbers

  A finite float is below `2 ^ 1024`, so the whole number it is truncated to has at most so many
  bits. -/

/-- A mantissa below `2 ^ a` at an exponent of at most `b` is a value below `2 ^ (a + b)`, also
    rounded down. -/
theorem Number.Binary64.ratio_div_lt {m a b : Nat} {e : Int} (hm : m < 2 ^ a) (he : e ≤ b) :
    (ratio m e).1 / (ratio m e).2 < 2 ^ (a + b) := by
  by_cases hwhole : 0 ≤ e
  · rw [ratio, if_pos hwhole]
    calc m * Nat.pow 2 e.toNat / 1 = m * 2 ^ e.toNat := Nat.div_one _
      _ < 2 ^ a * 2 ^ e.toNat := Nat.mul_lt_mul_of_pos_right hm (Nat.two_pow_pos _)
      _ = 2 ^ (a + e.toNat) := (Nat.pow_add 2 a _).symm
      _ ≤ 2 ^ (a + b) := Nat.pow_le_pow_right Nat.two_pos (by omega)
  · rw [ratio, if_neg hwhole]
    calc m / Nat.pow 2 (-e).toNat ≤ m := Nat.div_le_self m _
      _ < 2 ^ a := hm
      _ ≤ 2 ^ (a + b) := Nat.pow_le_pow_right Nat.two_pos (Nat.le_add_right a b)

/-- **The whole part of a finite number (`truncate?`) has at most 310 digits.** -/
theorem Number.Binary64.natAbs_lt_of_truncate? {x : Binary64} {n : Int}
    (h : x.truncate? = some n) : n.natAbs < 10 ^ 310 := by
  rcases x with ⟨s, m, e, hcanonical⟩ | s | -
  case infinite => cases h
  case nan => cases h
  case finite =>
    obtain ⟨hm, -, hhighest, -⟩ := id hcanonical
    let whole := (ratio m e).1 / (ratio m e).2
    have hn : n = if s then -(whole : Int) else (whole : Int) := (Option.some.inj h).symm
    have hwhole : n.natAbs = whole := by
      rw [hn]
      split
      · rw [Int.natAbs_neg, Int.natAbs_natCast]
      · rw [Int.natAbs_natCast]
    have hbits : whole < 2 ^ (53 + 971) := ratio_div_lt (a := 53) (b := 971) hm hhighest
    have hpow : 2 ^ (53 + 971) < 10 ^ 310 := by decide +kernel
    rw [hwhole]
    exact Nat.lt_trans hbits hpow

/-- **What a `measurement` comes to has at most 310 digits**: it is the whole part of a finite
    number. -/
theorem Form.natAbs_lt_of_measurement {scale : Nat} {text : String} {x : Binary64} {n : Int}
    (h : Form.measurement scale text = some (x, n)) : n.natAbs < 10 ^ 310 := by
  unfold Form.measurement at h
  obtain ⟨y, -, h⟩ := Option.bind_eq_some_iff.1 h
  obtain ⟨k, hk, h⟩ := Option.bind_eq_some_iff.1 h
  cases h
  exact Binary64.natAbs_lt_of_truncate? hk

namespace MediaSize

/-! ## Dimensions

  Digits bound a number: a measure has no more of them than there are characters, and the unit adds
  four. -/

/-- **Rounding carries a product (`Measure.times`) to the next power of ten at most.** A product
    below a power of ten is rounded to no more than that power, as the power is on the grid of the
    rounded digits. -/
theorem Measure.times_le {m : Measure} {unit k : Nat} (h : m.coefficient * unit < 10 ^ k) :
    m.times unit ≤ 10 ^ k := by
  let product := m.coefficient * unit
  let excess := (Nat.toDigits 10 product).length - precision
  show halfEven product (Nat.pow 10 excess) * Nat.pow 10 excess / Nat.pow 10 m.places ≤ _
  refine (Nat.div_le_self _ _).trans ?_
  rw [Nat.pow_eq]
  by_cases he : excess ≤ k
  · -- a multiple of the step that is below the power of ten is a step below it
    have hstep : 0 < 10 ^ excess := Nat.pow_pos (by decide)
    have hsplit : 10 ^ k = 10 ^ (k - excess) * 10 ^ excess := by
      rw [← Nat.pow_add, Nat.sub_add_cancel he]
    have hquotient : product / 10 ^ excess < 10 ^ (k - excess) := by
      rw [Nat.div_lt_iff_lt_mul hstep, ← hsplit]
      exact h
    have hrounded : halfEven product (10 ^ excess) ≤ product / 10 ^ excess + 1 := by
      unfold halfEven
      dsimp only
      split
      · omega
      · split
        · omega
        · split <;> omega
    rw [hsplit]
    exact Nat.mul_le_mul_right _ (by omega)
  · -- a product has no more digits than the power of ten
    exfalso
    have hdigits : 0 < product → (Nat.toDigits 10 product).length - 1 < k := by
      intro hpos
      exact (Nat.pow_lt_pow_iff_right (by decide)).1
        (lt_of_le_of_lt (pow_length_toDigits_le hpos) h)
    rcases Nat.eq_zero_or_pos product with hz | hpos
    · have hone : (Nat.toDigits 10 product).length = 1 := by rw [hz]; rfl
      have hexcess : excess = (Nat.toDigits 10 product).length - precision := rfl
      rw [hone] at hexcess
      simp only [precision] at hexcess
      omega
    · have hexcess : excess = (Nat.toDigits 10 product).length - precision := rfl
      have hlength := hdigits hpos
      simp only [precision] at hexcess
      omega

/-- So many digits make a number below that power of ten. -/
theorem asciiValue_lt {ds : List Char} (h : ∀ c ∈ ds, isAsciiDigit c = true) :
    asciiValue ds < 10 ^ ds.length := by
  have hdigits : ∀ d ∈ ds.map fun c => c.toNat - 0x30, d < 10 := by
    intro d hd
    obtain ⟨c, hc, rfl⟩ := List.mem_map.1 hd
    exact digit_lt_of_ascii (h c hc)
  have hvalue := digitsValue_lt hdigits
  rwa [List.length_map] at hvalue

/-- The digits of a `Measure` are among the characters it was read from, and what follows is no
    longer than the text. -/
theorem readMeasure_spec {cs rest : List Char} {m : Measure}
    (h : readMeasure cs = some (m, rest)) :
    m.coefficient < 10 ^ cs.length ∧ rest.length ≤ cs.length := by
  have hdigits : ∀ (xs : List Char), ∀ c ∈ xs.takeWhile isAsciiDigit, isAsciiDigit c = true :=
    fun xs c hc => List.mem_takeWhile_imp hc
  have hsplit : ∀ xs : List Char, (xs.takeWhile isAsciiDigit).length +
      (xs.dropWhile isAsciiDigit).length = xs.length := by
    intro xs
    rw [← List.length_append, List.takeWhile_append_dropWhile]
  have hcs := hsplit cs
  unfold readMeasure at h
  dsimp only at h
  split at h
  · cases h
  · split at h
    · rename_i more hmore
      cases h
      have hfraction := hsplit more
      rw [hmore, List.length_cons] at hcs
      have hboth : ∀ c ∈ cs.takeWhile isAsciiDigit ++ more.takeWhile isAsciiDigit,
          isAsciiDigit c = true :=
        fun c hc => (List.mem_append.1 hc).elim (hdigits cs c) (hdigits more c)
      -- the digits on both sides of the point are one number, and the point itself takes a
      -- character
      have hvalue := asciiValue_lt hboth
      rw [List.length_append] at hvalue
      exact ⟨lt_of_lt_of_le hvalue (Nat.pow_le_pow_right (by decide) (by omega)), by omega⟩
    · cases h
      have hvalue := asciiValue_lt (hdigits cs)
      exact ⟨lt_of_lt_of_le hvalue (Nat.pow_le_pow_right (by decide) (by omega)), by omega⟩

theorem readUnit_le {cs : List Char} {unit : Nat} (h : readUnit cs = some unit) : unit ≤ 2540 := by
  unfold readUnit at h
  split at h <;> cases h <;> decide

/-- A measure times a `unit` takes four digits more than it has characters. -/
theorem times_unit_le {m : Measure} {unit k : Nat} (hm : m.coefficient < 10 ^ k)
    (hu : unit ≤ 2540) : m.times unit ≤ 10 ^ (k + 4) := by
  refine Measure.times_le ?_
  calc m.coefficient * unit ≤ m.coefficient * 10 ^ 4 := Nat.mul_le_mul_left _ (by omega)
    _ < 10 ^ k * 10 ^ 4 := Nat.mul_lt_mul_of_pos_right hm (by decide)
    _ = 10 ^ (k + 4) := (Nat.pow_add 10 k 4).symm

/-- Both lengths take four digits more than the text has characters, by `times_unit_le`. -/
theorem readDimensions_le {cs : List Char} {width length : Nat}
    (h : readDimensions cs = some (width, length)) :
    width ≤ 10 ^ (cs.length + 4) ∧ length ≤ 10 ^ (cs.length + 4) := by
  unfold readDimensions at h
  obtain ⟨⟨w, rest⟩, hw, h⟩ := Option.bind_eq_some_iff.1 h
  dsimp only at h
  split at h
  · rename_i more
    obtain ⟨⟨l, rest'⟩, hl, h⟩ := Option.bind_eq_some_iff.1 h
    obtain ⟨unit, hunit, h⟩ := Option.bind_eq_some_iff.1 h
    cases h
    obtain ⟨hw, hrest⟩ := readMeasure_spec hw
    obtain ⟨hl, -⟩ := readMeasure_spec hl
    rw [List.length_cons] at hrest
    have hl' : l.coefficient < 10 ^ cs.length :=
      lt_of_lt_of_le hl (Nat.pow_le_pow_right (by decide) (by omega))
    exact ⟨times_unit_le hw (readUnit_le hunit), times_unit_le hl' (readUnit_le hunit)⟩
  · cases h

/-! ## Names

  A size that is found by a name is bounded by the length of the name, whether it is a standard size
  or one that the name describes. -/

/-- The `standard` sizes have at most five digits, and names. -/
theorem standard_lt : ∀ s ∈ standard, s.width < 10 ^ 5 ∧ s.length < 10 ^ 5 ∧ 1 ≤ s.name.length := by
  decide

/-- What stands behind the last underscore is shorter than the text. -/
theorem length_splitLast_lt {cs front last : List Char} (h : splitLast cs = some (front, last)) :
    last.length < cs.length := by
  have hsplit := congrArg List.length
    (List.takeWhile_append_dropWhile (p := (· != '_')) (l := cs.reverse))
  rw [List.length_append, List.length_reverse] at hsplit
  unfold splitLast at h
  split at h
  · cases h
  · rename_i hdrop
    cases h
    rw [hdrop, List.length_cons] at hsplit
    rw [List.length_reverse]
    omega

/-- **The lengths that a size `name` stands for are below a power of ten for each character**, and
    four more. -/
theorem lookup_lt {name : String} {s : MediaSize} (h : lookup name = some s) :
    s.width < 10 ^ (name.length + 4) ∧ s.length < 10 ^ (name.length + 4) := by
  unfold lookup at h
  split at h
  · rename_i found hfound
    cases h
    have hname : s.name = name := by simpa using List.find?_some hfound
    obtain ⟨hw, hl, hpos⟩ := standard_lt s (List.mem_of_find?_eq_some hfound)
    rw [hname] at hpos
    have hpow : 10 ^ 5 ≤ 10 ^ (name.length + 4) := Nat.pow_le_pow_right (by decide) (by omega)
    exact ⟨lt_of_lt_of_le hw hpow, lt_of_lt_of_le hl hpow⟩
  · unfold ofDimensions? at h
    obtain ⟨⟨front, last⟩, hlast, h⟩ := Option.bind_eq_some_iff.1 h
    have hshort := length_splitLast_lt hlast
    rw [String.length_toList] at hshort
    dsimp only at h
    split at h
    · cases h
    · obtain ⟨⟨width, length⟩, hdimensions, h⟩ := Option.bind_eq_some_iff.1 h
      dsimp only at h
      split at h
      · cases h
      · cases h
        obtain ⟨hw, hl⟩ := readDimensions_le hdimensions
        have hpow : 10 ^ (last.length + 4) < 10 ^ (name.length + 4) :=
          Nat.pow_lt_pow_right (by decide) (by omega)
        exact ⟨lt_of_le_of_lt hw hpow, lt_of_le_of_lt hl hpow⟩

/-- The dimensions of a name are as small as those that `lookup_lt` gives, also if one of them is
    zero. -/
theorem dimensions?_lt {name : String} {width length : Nat}
    (h : dimensions? name = some (width, length)) :
    width < 10 ^ (name.length + 4) ∧ length < 10 ^ (name.length + 4) := by
  unfold dimensions? at h
  obtain ⟨⟨front, last⟩, hlast, h⟩ := Option.bind_eq_some_iff.1 h
  have hshort := length_splitLast_lt hlast
  rw [String.length_toList] at hshort
  dsimp only at h
  split at h
  · cases h
  · obtain ⟨hw, hl⟩ := readDimensions_le h
    have hpow : 10 ^ (last.length + 4) < 10 ^ (name.length + 4) :=
      Nat.pow_lt_pow_right (by decide) (by omega)
    exact ⟨lt_of_le_of_lt hw hpow, lt_of_le_of_lt hl hpow⟩

/-- A name whose dimensions are below `productDigits` does not overflow. -/
theorem overflows_eq_false_of_lt {name : String} {k : Nat} (hk : k ≤ productDigits)
    (h : ∀ width length, dimensions? name = some (width, length) →
      width < 10 ^ k ∧ length < 10 ^ k) :
    overflows name = false := by
  have hmono : ∀ {a b : Nat}, a ≤ b → 10 ^ a ≤ Nat.pow 10 b :=
    fun hab => Nat.pow_le_pow_right (by decide) hab
  have hpow := hmono hk
  unfold overflows
  -- the bound itself is not to be computed
  generalize Nat.pow 10 productDigits = bound at hpow ⊢
  rw [Bool.and_eq_false_iff]
  right
  cases hd : dimensions? name with
  | none => rfl
  | some found =>
    obtain ⟨width, length⟩ := found
    obtain ⟨hw, hl⟩ := h width length hd
    rw [Option.any_some, Bool.or_eq_false_iff, decide_eq_false_iff_not, decide_eq_false_iff_not]
    exact ⟨Nat.not_le_of_lt (lt_of_lt_of_le hw hpow), Nat.not_le_of_lt (lt_of_lt_of_le hl hpow)⟩

/-- **A name overflows only if it is about as long as a product may be** (`productDigits`), which is
    a million characters. -/
theorem overflows_eq_false {name : String} (h : name.length + 4 ≤ productDigits) :
    overflows name = false :=
  overflows_eq_false_of_lt h fun _ _ hd => dimensions?_lt hd

end MediaSize

namespace DriverOptions

/-! ## Which media are accepted -/

/-- No size of a source that the form `f` configures `overflows`. -/
def HasSizesInRange (f : Form) (o : DriverOptions) : Prop :=
  ∀ i source, o.sources[i]? = some source → isManual source = false →
    ∀ size ∈ f.value? (readyField i "size"), MediaSize.overflows size = false

/-- **A submission is accepted exactly if its sizes are in range**, and then the whole form is
    applied (`applyMediaForm`). -/
theorem submitMediaForm_eq_ok_iff {f : Form} {o : DriverOptions} {r : DriverOptions × List Json} :
    submitMediaForm f o = .ok r ↔ HasSizesInRange f o ∧ r = applyMediaForm f o := by
  have hrange : (o.sources.zipIdx.any fun entry =>
      !isManual entry.1 && sizeOverflows f entry.2) = false ↔ HasSizesInRange f o := by
    rw [List.any_eq_false]
    constructor
    · intro h i source hsource hmanual size hsize
      have hi := h (source, i) (List.mk_mem_zipIdx_iff_getElem?.2 hsource)
      simpa [hmanual, sizeOverflows, Option.mem_def.1 hsize] using hi
    · rintro h ⟨source, i⟩ hmem
      have hi := h i source (List.mk_mem_zipIdx_iff_getElem?.1 hmem)
      cases hmanual : isManual source with
      | true => simp
      | false =>
        cases hsize : f.value? (readyField i "size") with
        | none => simp [sizeOverflows, hsize]
        | some size => simp [sizeOverflows, hsize, hi hmanual size hsize]
  unfold submitMediaForm
  rw [← hrange]
  by_cases hany : (o.sources.zipIdx.any fun entry =>
      !isManual entry.1 && sizeOverflows f entry.2) = true
  · rw [if_pos hany, hany]
    refine iff_of_false ?_ ?_
    · intro h
      cases h
    · rintro ⟨h, -⟩
      cases h
  · rw [if_neg hany]
    rw [Bool.not_eq_true] at hany
    rw [hany, Except.ok.injEq, eq_comm]
    exact ⟨fun h => ⟨rfl, h⟩, fun h => h.2⟩

end DriverOptions

end PrinterConsole
