/-
  Six significant digits survive being read and rounded again.

  A value with all 53 bits is so near to the decimal number that it is read from, that rounding it
  to six digits finds the decimal number again.  Only at a power of ten the value may fall to the
  other side, where the same number has one digit more or less; these are the lemmas
  `significant_of_near_below` and `significant_of_near_above`.

  The second half is about being read: the value of a ratio is at most half a step off
  (`ofRatio_near`), and half a step of 53 bits is less than a thirty-second of the sixth digit,
  which is the distance that `significant_of_near` allows.

  Main statements: what is near a decimal number of six digits has these digits
  (`significant_of_near`), and the value that is read from the six digits of a value with all its
  bits has the same six digits (`significant_ofRatio`).
-/
import PrinterConsole.Proofs.Number.Range
import PrinterConsole.Proofs.Number.Shortest

namespace PrinterConsole.Number

namespace DigitString

/-! ## Digits of a ratio

  To write a number in six digits is to round it to a grid of decimals.  The text is read as a
  number that is only near the grid point, but so near that six digits of it are the same again, if
  there are bits enough (`significant_ofRatio`). -/

/-- The place of the point is the only one that fits: `p` if the ratio is between the powers of ten
    at `p - 1` and `p`. -/
theorem pointOf_eq {num den : Nat} (hn : 0 < num) (hd : 0 < den) {p : Int}
    (hlow : (10 : ℚ) ^ (p - 1) ≤ num / den) (hhigh : (num : ℚ) / den < 10 ^ p) :
    pointOf num den = p := by
  have hone : (1 : ℚ) < 10 := by norm_num
  have hle := (zpow_lt_zpow_iff_right₀ hone).1 ((pow_pointOf_le hn hd).trans_lt hhigh)
  have hge := (zpow_lt_zpow_iff_right₀ hone).1 (hlow.trans_lt (lt_pow_pointOf hn hd))
  omega

/-- A ratio of which the place of the point is known, rounded to `n` digits, if it is less than half
    a unit of the last one away from `c`. -/
theorem significant_of_close {n num den c : Nat} (hn : 0 < num) (hd : 0 < den) {q : Int}
    (hlow : (10 : ℚ) ^ (q + n - 1) ≤ num / den) (hhigh : (num : ℚ) / den < 10 ^ (q + n))
    (hbelow : (2 * (c : ℚ) - 1) * 10 ^ q < 2 * (num / den))
    (habove : 2 * (num / den : ℚ) < (2 * c + 1) * 10 ^ q) :
    significant n num den = ofScaled c q := by
  have hten : (0 : ℚ) < 10 ^ q := zpow_pos (by norm_num) q
  rw [ratio_eq_ungrid num den q, ← mul_assoc, mul_lt_mul_iff_left₀ hten] at hbelow habove
  have hround := halfEven_of_close (ungrid_pos num hd q) hbelow habove
  have hq : pointOf num den - n = q := by
    rw [pointOf_eq hn hd hlow hhigh]
    ring
  unfold significant
  dsimp only
  rw [hq, hround]

/-- A zero at the end does not count in `ofScaled`. -/
theorem ofScaled_mul_ten {c : Nat} (hc : 0 < c) (q : Int) :
    ofScaled (10 * c) q = ofScaled c (q + 1) := by
  have hdigits : Nat.toDigits 10 (10 * c) = Nat.toDigits 10 c ++ ['0'] :=
    (Nat.toDigits_append_toDigits (d := 0) (by decide) hc (by decide)).symm
  rw [ofScaled, ofScaled, if_neg (by omega), if_neg (by omega), hdigits]
  dsimp only
  rw [List.reverse_append, List.length_append]
  push_cast
  rw [show (Nat.toDigits 10 c).length + ((['0'] : List Char).length : Int) + q =
    (Nat.toDigits 10 c).length + (q + 1) by rw [List.length_singleton]; push_cast; ring]
  rfl

theorem ten_zpow_add (q : Int) (k : Nat) : (10 : ℚ) ^ (q + k) = 10 ^ q * 10 ^ k := by
  rw [zpow_add₀ (by norm_num), zpow_natCast]

section Near

variable {num den c : Nat} {q : Int}

/-- Just below a power of ten the same `significant` digits are found one place further down, where
    the step is a tenth as wide. -/
theorem significant_of_near_below (hn : 0 < num) (hd : 0 < den)
    (hlow : 32 * ((10 : ℚ) ^ q * 10 ^ 5) ≤ 32 * (num / den) + 10 ^ q)
    (hsmall : (num : ℚ) / den < 10 ^ q * 10 ^ 5) :
    significant 6 num den = ofScaled (10 ^ 5) q := by
  have hpos : (0 : ℚ) < 10 ^ q := zpow_pos (by norm_num) q
  have hone : (10 : ℚ) ^ q = 10 ^ (q - 1) * 10 := by
    rw [← zpow_add_one₀ (by norm_num), sub_add_cancel]
  have hresult : ofScaled (10 ^ 5) q = ofScaled (10 ^ 6) (q - 1) := by
    have := ofScaled_mul_ten (c := 10 ^ 5) (by norm_num) (q - 1)
    rw [sub_add_cancel] at this
    exact this.symm
  rw [hresult]
  refine significant_of_close hn hd ?_ ?_ ?_ ?_
  · rw [show q - 1 + (6 : Nat) - 1 = q + (4 : Nat) by push_cast; ring, ten_zpow_add]
    linarith
  · rw [show q - 1 + (6 : Nat) = q + (5 : Nat) by push_cast; ring, ten_zpow_add]
    exact hsmall
  · push_cast
    linarith
  · push_cast
    linarith

/-- At a power of ten or just above it the same digits are found one place further up, by
    `ofScaled_mul_ten`. -/
theorem significant_of_near_above (hn : 0 < num) (hd : 0 < den)
    (hhigh : 32 * (num / den : ℚ) ≤ 32 * ((10 : ℚ) ^ q * 10 ^ 6) + 10 ^ q)
    (hlarge : (10 : ℚ) ^ q * 10 ^ 6 ≤ num / den) :
    significant 6 num den = ofScaled (10 ^ 6) q := by
  have hpos : (0 : ℚ) < 10 ^ q := zpow_pos (by norm_num) q
  have hnext : (10 : ℚ) ^ (q + 1) = 10 ^ q * 10 := zpow_add_one₀ (by norm_num) q
  have hresult : ofScaled (10 ^ 6) q = ofScaled (10 ^ 5) (q + 1) :=
    ofScaled_mul_ten (c := 10 ^ 5) (by norm_num) q
  rw [hresult]
  refine significant_of_close hn hd ?_ ?_ ?_ ?_
  · rw [show q + 1 + (6 : Nat) - 1 = q + (6 : Nat) by push_cast; ring, ten_zpow_add]
    exact hlarge
  · rw [show q + 1 + (6 : Nat) = q + (7 : Nat) by push_cast; ring, ten_zpow_add]
    linarith
  · rw [hnext]
    push_cast
    linarith
  · rw [hnext]
    push_cast
    linarith

/-- **What is near a decimal number of six digits has these digits** (`significant`): within a
    thirty-second of the last one. -/
theorem significant_of_near (hn : 0 < num) (hd : 0 < den) (hc : 10 ^ 5 ≤ c) (hc' : c ≤ 10 ^ 6)
    (hlow : 32 * ((c : ℚ) * 10 ^ q) ≤ 32 * (num / den) + 10 ^ q)
    (hhigh : 32 * (num / den : ℚ) ≤ 32 * ((c : ℚ) * 10 ^ q) + 10 ^ q) :
    significant 6 num den = ofScaled c q := by
  have hpos : (0 : ℚ) < 10 ^ q := zpow_pos (by norm_num) q
  rcases lt_or_ge ((num : ℚ) / den) (10 ^ q * 10 ^ 5) with hsmall | hsmall
  · -- just below a power of ten, where six digits are rounded up to it
    obtain rfl : c = 10 ^ 5 := by
      by_contra hne
      have hnat : 10 ^ 5 + 1 ≤ c := by omega
      have hcast : (10 ^ 5 + 1 : ℚ) ≤ c := by exact_mod_cast hnat
      have := mul_le_mul_of_nonneg_right hcast hpos.le
      linarith
    refine significant_of_near_below hn hd ?_ hsmall
    push_cast at hlow
    linarith
  rcases lt_or_ge ((num : ℚ) / den) (10 ^ q * 10 ^ 6) with hlarge | hlarge
  · refine significant_of_close hn hd ?_ ?_ ?_ ?_
    · rw [show q + (6 : Nat) - 1 = q + (5 : Nat) by push_cast; ring, ten_zpow_add]
      exact hsmall
    · rw [ten_zpow_add]
      exact hlarge
    · linarith
    · linarith
  · -- at the next power of ten, where they are rounded down to it
    obtain rfl : c = 10 ^ 6 := by
      by_contra hne
      have hnat : c + 1 ≤ 10 ^ 6 := by omega
      have hcast : (c + 1 : ℚ) ≤ 10 ^ 6 := by exact_mod_cast hnat
      have := mul_le_mul_of_nonneg_right hcast hpos.le
      linarith
    refine significant_of_near_above hn hd ?_ hlarge
    push_cast at hhigh
    linarith

end Near

/-- **Six digits of a positive ratio**: the last of them is at most half a unit off, and `c` has six
    digits or is `10 ^ 6`. -/
theorem significant_six {num den : Nat} (hn : 0 < num) (hd : 0 < den) :
    ∃ (c : Nat) (q : Int), significant 6 num den = ofScaled c q ∧ 10 ^ 5 ≤ c ∧ c ≤ 10 ^ 6 ∧
      (10 : ℚ) ^ q * 10 ^ 5 ≤ num / den ∧ (num : ℚ) / den < 10 ^ q * 10 ^ 6 ∧
      (2 * (c : ℚ) - 1) * 10 ^ q ≤ 2 * (num / den) ∧
      2 * (num / den : ℚ) ≤ (2 * c + 1) * 10 ^ q := by
  have hten : (10 : ℚ) ≠ 0 := by norm_num
  obtain ⟨c, hsignificant, hbelow, habove⟩ := significant_spec 6 num hd
  have hlow := pow_pointOf_le hn hd
  have hhigh := lt_pow_pointOf hn hd
  rw [show pointOf num den - 1 = pointOf num den - (6 : Nat) + (5 : Nat) by push_cast; ring,
    zpow_add₀ hten, zpow_natCast] at hlow
  rw [show pointOf num den = pointOf num den - (6 : Nat) + (6 : Nat) by ring, zpow_add₀ hten,
    zpow_natCast] at hhigh
  generalize pointOf num den - (6 : Nat) = q at *
  have hpos : (0 : ℚ) < 10 ^ q := zpow_pos (by norm_num) q
  refine ⟨c, q, hsignificant, ?_, ?_, hlow, hhigh, hbelow, habove⟩
  · have hle : (2 * 10 ^ 5 : ℚ) ≤ 2 * c + 1 := by
      refine le_of_mul_le_mul_right ?_ hpos
      linarith
    have : 2 * 10 ^ 5 ≤ 2 * c + 1 := by exact_mod_cast hle
    omega
  · have hlt : (2 * c : ℚ) < 2 * 10 ^ 6 + 1 := by
      refine lt_of_mul_lt_mul_right ?_ hpos.le
      linarith
    have : 2 * c < 2 * 10 ^ 6 + 1 := by exact_mod_cast hlt
    omega

end DigitString

namespace Binary64

open DigitString

theorem ratio_fst_pos {m : Nat} (hm : 0 < m) (e : Int) : 0 < (ratio m e).1 := by
  unfold ratio
  split
  · exact Nat.mul_pos hm (Nat.pow_pos (by decide))
  · exact hm

/-- The value of a ratio is its mantissa at the exponent of the ratio (`exponentFor`), whether it
    was carried or not. -/
theorem ofRatio_value {s t : Bool} {num den m : Nat} {e : Int} {h : IsCanonical m e}
    (hn : 0 < num) (hd : 0 < den) (hr : ofRatio s num den = finite t m e h) :
    t = s ∧ (m : ℚ) * 2 ^ e =
      halfEven (unscale num den (exponentFor num den)).1 (unscale num den (exponentFor num den)).2 *
        2 ^ exponentFor num den := by
  obtain ⟨hlowest, hbelow, hfull⟩ := exponentFor_spec hn hd
  have hbounds := halfEven_unscale_bounds num hd (exponentFor num den)
  rw [ofRatio, if_neg hn.ne'] at hr
  dsimp only at hr
  generalize exponentFor num den = f at *
  generalize halfEven (unscale num den f).1 (unscale num den f).2 = k at *
  obtain ⟨hk, hk'⟩ := mantissa_bounds (zpow_pos (by norm_num) f) hbelow hfull hbounds
  unfold ofMagnitude at hr
  split at hr
  · cases hr
    exact ⟨rfl, rfl⟩
  · rename_i hcanonical
    split at hr
    · -- a carry is the next power of two
      rename_i hcarried
      cases hr
      have hcarry : k = 2 ^ 53 := by
        by_contra hne
        have hf := hcarried.2.2.1
        exact hcanonical ⟨lt_of_le_of_ne hk hne, hlowest, by omega, hk'⟩
      subst hcarry
      refine ⟨rfl, ?_⟩
      rw [zpow_add_one₀ (by norm_num), show 2 ^ 53 / 2 = 2 ^ 52 by norm_num]
      push_cast
      ring
    · cases hr

/-- **The value of a ratio is at most half a step off**, a step being `2 ^ exponentFor num den`. -/
theorem ofRatio_near {s t : Bool} {num den m : Nat} {e : Int} {h : IsCanonical m e}
    (hn : 0 < num) (hd : 0 < den) (hr : ofRatio s num den = finite t m e h) :
    t = s ∧ 2 * ((m : ℚ) * 2 ^ e) ≤ 2 * (num / den) + 2 ^ exponentFor num den ∧
      2 * (num / den : ℚ) ≤ 2 * (m * 2 ^ e) + 2 ^ exponentFor num den := by
  obtain ⟨hlow, hhigh⟩ := halfEven_unscale_bounds num hd (exponentFor num den)
  obtain ⟨hsign, hvalue⟩ := ofRatio_value hn hd hr
  rw [hvalue]
  refine ⟨hsign, ?_, ?_⟩
  · linarith
  · linarith

/-- **The value that is read from the six digits of a value with all its bits** (`2 ^ 52 ≤ m`) has
    the same sign and the same six digits. -/
theorem significant_ofRatio {s t : Bool} {m m' : Nat} {e e' : Int} (h : IsCanonical m e)
    (hm : 2 ^ 52 ≤ m) {num den c : Nat} {q : Int} (hd : 0 < den)
    (hvalue : (num : ℚ) / den = c * 10 ^ q) (hc : 10 ^ 5 ≤ c) (hc' : c ≤ 10 ^ 6)
    (hrange : (m : ℚ) * 2 ^ e < 10 ^ q * 10 ^ 6) {h' : IsCanonical m' e'}
    (hr : ofRatio s num den = finite t m' e' h') :
    t = s ∧ 0 < m' ∧ significant 6 (ratio m' e').1 (ratio m' e').2 = ofScaled c q := by
  have hten : (0 : ℚ) < 10 ^ q := zpow_pos (by norm_num) q
  have hcq : (10 ^ 5 : ℚ) ≤ c := by exact_mod_cast hc
  have hcq' : (c : ℚ) ≤ 10 ^ 6 := by exact_mod_cast hc'
  have hupper := mul_le_mul_of_nonneg_right hcq' hten.le
  have hlower := mul_le_mul_of_nonneg_right hcq hten.le
  have hn : 0 < num := by
    rw [Nat.pos_iff_ne_zero]
    rintro rfl
    rw [Nat.cast_zero, zero_div] at hvalue
    linarith
  -- a step at the decimal number is far below a unit of its last digit
  have hstep : 2 ^ 52 * (2 : ℚ) ^ exponentFor num den ≤ 10 ^ 6 * 10 ^ q := by
    obtain ⟨-, -, hfull | hlowest⟩ := exponentFor_spec hn hd
    · exact (hfull.trans_eq hvalue).trans hupper
    · have hmq : (2 ^ 52 : ℚ) ≤ m := by exact_mod_cast hm
      have hmono : (2 : ℚ) ^ exponentFor num den ≤ 2 ^ e :=
        zpow_le_zpow_right₀ (by norm_num) (hlowest.trans_le h.2.1)
      have hmul : 2 ^ 52 * (2 : ℚ) ^ exponentFor num den ≤ m * 2 ^ e :=
        mul_le_mul hmq hmono (zpow_pos (by norm_num) _).le (Nat.cast_nonneg m)
      linarith
  obtain ⟨hsign, hlow, hhigh⟩ := ofRatio_near hn hd hr
  rw [hvalue] at hlow hhigh
  have hm' : 0 < m' := by
    rw [Nat.pos_iff_ne_zero]
    rintro rfl
    rw [Nat.cast_zero, zero_mul] at hhigh
    linarith
  rw [← ratio_eq] at hlow hhigh
  refine ⟨hsign, hm', significant_of_near (ratio_fst_pos hm' e') (ratio_pos m' e') hc hc' ?_ ?_⟩
  · linarith
  · linarith

/-- The tie above the greatest magnitude (`tooLarge`), in steps of its sixth digit. -/
theorem tooLarge_bounds :
    (10 : ℚ) ^ (308 : Int) < tooLarge ∧ tooLarge < 10 ^ (309 : Int) ∧
      179769 * (10 : ℚ) ^ (303 : Int) < tooLarge ∧ 2 * tooLarge < 359539 * 10 ^ (303 : Int) := by
  have hnat : 10 ^ 308 < 18014398509481983 * 2 ^ 970 ∧ 18014398509481983 * 2 ^ 970 < 10 ^ 309 ∧
      179769 * 10 ^ 303 < 18014398509481983 * 2 ^ 970 ∧
      2 * (18014398509481983 * 2 ^ 970) < 359539 * 10 ^ 303 := by decide +kernel
  have htie : tooLarge = 18014398509481983 * 2 ^ (970 : Int) := by
    rw [tooLarge]
    norm_num
  rw [htie]
  exact_mod_cast hnat

/-- A finite value is below `tooLarge`. -/
theorem finite_lt_tooLarge {m : Nat} {e : Int} (h : IsCanonical m e) :
    (m : ℚ) * 2 ^ e < tooLarge := by
  obtain ⟨hm, -, he, -⟩ := h
  rw [Nat.pow_eq] at hm
  have hmq : (m : ℚ) ≤ 2 ^ 53 - 1 := by
    have : m + 1 ≤ 2 ^ 53 := hm
    have hcast : (m : ℚ) + 1 ≤ 2 ^ 53 := by exact_mod_cast this
    linarith
  have hmono : (2 : ℚ) ^ e ≤ 2 ^ (971 : Int) := zpow_le_zpow_right₀ (by norm_num) he
  have htwice : (2 : ℚ) ^ (971 : Int) = 2 ^ (970 : Int) * 2 := zpow_add_one₀ (by norm_num) 970
  have hunit : (0 : ℚ) < 2 ^ (970 : Int) := zpow_pos (by norm_num) _
  have hle := mul_le_mul hmq hmono (zpow_pos (by norm_num) _).le (by norm_num)
  rw [htwice] at hle
  rw [tooLarge]
  generalize (2 : ℚ) ^ (970 : Int) = u at *
  linarith only [hle, hunit]

/-- **Rounding a finite value to six digits does not make it `tooLarge`.** -/
theorem significant_lt_tooLarge {m : Nat} {e : Int} (h : IsCanonical m e) {c : Nat} {q : Int}
    (hc' : c ≤ 10 ^ 6) (hlow : (10 : ℚ) ^ q * 10 ^ 5 ≤ m * 2 ^ e)
    (hbelow : (2 * (c : ℚ) - 1) * 10 ^ q ≤ 2 * (m * 2 ^ e)) : (c : ℚ) * 10 ^ q < tooLarge := by
  obtain ⟨hlarge, hsmall, hdigits, hdigits'⟩ := tooLarge_bounds
  have hvalue := finite_lt_tooLarge h
  have hten : (10 : ℚ) ≠ 0 := by norm_num
  have hone : (1 : ℚ) < 10 := by norm_num
  have hpos : (0 : ℚ) < 10 ^ q := zpow_pos (by norm_num) q
  by_contra hge
  rw [not_lt] at hge
  -- only one place of the point is left
  have hq : q = 303 := by
    have hupper : (10 : ℚ) ^ (q + 5) < 10 ^ (309 : Int) := by
      rw [zpow_add₀ hten]
      exact (hlow.trans_lt hvalue).trans hsmall
    have hlower : (10 : ℚ) ^ (308 : Int) < 10 ^ (q + 6) := by
      have hcq : (c : ℚ) ≤ 10 ^ 6 := by exact_mod_cast hc'
      rw [zpow_add₀ hten, mul_comm]
      exact hlarge.trans_le (hge.trans (mul_le_mul_of_nonneg_right hcq hpos.le))
    have := (zpow_lt_zpow_iff_right₀ hone).1 hupper
    have := (zpow_lt_zpow_iff_right₀ hone).1 hlower
    omega
  subst hq
  -- and there the digits would be between two whole numbers
  have habove : (179769 : ℚ) < c := lt_of_mul_lt_mul_right (hdigits.trans_le hge) hpos.le
  have hbelow' : (2 * (c : ℚ) - 1) < 359539 := by
    refine lt_of_mul_lt_mul_right ?_ hpos.le
    linarith
  have hcount : 179769 < c := by exact_mod_cast habove
  have hcount' : 2 * c < 359540 := by
    have : (2 * c : ℚ) < 359540 := by linarith only [hbelow']
    exact_mod_cast this
  omega

end Binary64

end PrinterConsole.Number
