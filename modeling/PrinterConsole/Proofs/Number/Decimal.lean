/-
  Reading a decimal number.

  A decimal number in the interval of a value (`Nearest`) is read as that value, however it is
  split into digits and an exponent.  The two early answers of `ofDecimal`, for a point far
  outside the range, do not get in the way: the interval of a finite value ends below 10^310 and
  begins above 10^-330 (`nearest_range`), and the place of the point tells the size of the number
  (`decimal_bounds`).

  Main statements: a decimal number in range is read as the value of its ratio
  (`ofDecimal_eq_ofRatio`), so as the value it stands for (`ofDecimal_of_nearest`), and zeros are
  read as zero (`ofDecimal_of_zero`).
-/
import Mathlib.Data.List.TakeWhile
import PrinterConsole.Proofs.Number.Digits
import PrinterConsole.Proofs.Number.Nearest

namespace PrinterConsole.Number

open Binary64

theorem two_pow_lt_ten_pow : 2 ^ 1075 < 10 ^ 330 ∧ 2 ^ 1024 < 10 ^ 310 := by decide +kernel

/-- The interval of a positive value lies within the range of decimal points that `ofDecimal` looks
    at. -/
theorem nearest_range {m : Nat} {e : Int} (h : IsCanonical m e) (hm : 0 < m) {r : ℚ}
    (hr : Nearest r m e) : (10 : ℚ) ^ (-330 : Int) < r ∧ r < 10 ^ (310 : Int) := by
  obtain ⟨hm53, hlowest, hhighest, -⟩ := id h
  rw [Nat.pow_eq] at hm53
  constructor
  · have hlow : (2 : ℚ) ≤ lowEnd m e := by
      have : 2 ≤ lowEnd m e := le_trans (by omega) (le_lowEnd m e)
      exact_mod_cast this
    have hstep : (2 : ℚ) ^ (-1076 : Int) ≤ 2 ^ (e - 2) :=
      zpow_le_zpow_right₀ (by norm_num) (by omega)
    have hpow : (2 : ℚ) ^ (1075 : Nat) < 10 ^ (330 : Nat) := by
      exact_mod_cast two_pow_lt_ten_pow.1
    -- twice the least step is still more than this power of ten
    calc (10 : ℚ) ^ (-330 : Int) < 2 ^ (-1075 : Int) :=
          inv_strictAnti₀ (pow_pos (by norm_num) _) hpow
      _ = 2 * 2 ^ (-1076 : Int) := by
          rw [← zpow_one_add₀ (by norm_num)]
          rfl
      _ ≤ lowEnd m e * 2 ^ (e - 2) := mul_le_mul hlow hstep (by positivity) (by positivity)
      _ ≤ r := hr.low_le
  · have hhigh : (highEnd m : ℚ) ≤ 2 ^ (55 : Nat) := by
      have : highEnd m ≤ 2 ^ 55 := by
        unfold highEnd
        omega
      exact_mod_cast this
    have hstep : (2 : ℚ) ^ (e - 2) ≤ 2 ^ (969 : Int) :=
      zpow_le_zpow_right₀ (by norm_num) (by omega)
    calc r ≤ highEnd m * 2 ^ (e - 2) := hr.le_high
      _ ≤ 2 ^ (55 : Nat) * 2 ^ (969 : Int) := mul_le_mul hhigh hstep (by positivity) (by positivity)
      _ = 2 ^ (1024 : Nat) := by
          rw [← zpow_natCast, ← zpow_natCast, ← zpow_add₀ (by norm_num)]
          rfl
      _ < 10 ^ (310 : Int) := by exact_mod_cast two_pow_lt_ten_pow.2

/-- The place of the point tells the size of a decimal number, if its first digit `d` is no zero. -/
theorem decimal_bounds {d : Nat} {rest : List Nat} (hd : d ≠ 0) (h : ∀ d' ∈ d :: rest, d' < 10)
    (x : Int) :
    (10 : ℚ) ^ ((d :: rest).length + x - 1) ≤ digitsValue (d :: rest) * 10 ^ x ∧
      (digitsValue (d :: rest) : ℚ) * 10 ^ x < 10 ^ ((d :: rest).length + x) := by
  have hten : (10 : ℚ) ≠ 0 := by norm_num
  have hx : (0 : ℚ) < 10 ^ x := zpow_pos (by norm_num) x
  constructor
  · have hlow : (10 : ℚ) ^ rest.length ≤ digitsValue (d :: rest) := by
      exact_mod_cast pow_le_digitsValue hd rest
    rw [show ((d :: rest).length + x - 1 : Int) = (rest.length : Int) + x by
      rw [List.length_cons]; push_cast; ring, zpow_add₀ hten, zpow_natCast]
    exact mul_le_mul_of_nonneg_right hlow hx.le
  · have hhigh : (digitsValue (d :: rest) : ℚ) < 10 ^ (d :: rest).length := by
      exact_mod_cast digitsValue_lt h
    rw [zpow_add₀ hten, zpow_natCast]
    exact mul_lt_mul_of_pos_right hhigh hx

/-- **A decimal number in the range of decimal points is read as the value of its ratio**
    (`ofRatio`), of some `num` and `den` that make the number. -/
theorem ofDecimal_eq_ofRatio {ds : List Nat} (hds : ∀ d ∈ ds, d < 10) {x : Int}
    (hlow : (10 : ℚ) ^ (-330 : Int) < digitsValue ds * 10 ^ x)
    (hhigh : (digitsValue ds : ℚ) * 10 ^ x < 10 ^ (310 : Int)) :
    ∃ num den : Nat, 0 < den ∧ (num : ℚ) / den = digitsValue ds * 10 ^ x ∧
      ∀ s, ofDecimal s ds x = ofRatio s num den := by
  rw [← digitsValue_dropWhile ds] at hlow hhigh ⊢
  unfold ofDecimal
  dsimp only
  have hdigits : ∀ d ∈ ds.dropWhile (· == 0), d < 10 :=
    fun d hd => hds d ((List.dropWhile_sublist _).subset hd)
  cases hsig : ds.dropWhile (· == 0) with
  | nil =>
    -- no digit but zeros gives zero, which is below the bound
    have hpos : (0 : ℚ) < 10 ^ (-330 : Int) := zpow_pos (by norm_num) _
    rw [hsig, digitsValue_nil, Nat.cast_zero, zero_mul] at hlow
    exact absurd hlow (not_lt.2 hpos.le)
  | cons d rest =>
    have hd : d ≠ 0 := by
      have := List.head?_dropWhile_not (· == 0) ds
      simpa [hsig] using this
    rw [hsig] at hlow hhigh hdigits
    obtain ⟨hpoint, hpoint'⟩ := decimal_bounds hd hdigits x
    have hone : (1 : ℚ) < 10 := by norm_num
    -- the point stands where neither of the early answers is taken
    have hge : ¬ (((d :: rest).length : Int) + x < -330) := fun hlt =>
      absurd (hlow.trans hpoint') (not_lt.2 (zpow_le_zpow_right₀ hone.le hlt.le))
    have hle : ¬ ((310 : Int) < (d :: rest).length + x) := fun hlt =>
      absurd (hpoint.trans_lt hhigh) (not_lt.2 (zpow_le_zpow_right₀ hone.le (by omega)))
    simp only [List.isEmpty_cons, Bool.false_or, decide_eq_true_eq, if_neg hge, if_neg hle]
    split
    · rename_i hx
      obtain ⟨k, rfl⟩ := Int.eq_ofNat_of_zero_le hx
      refine ⟨_, 1, Nat.one_pos, ?_, fun s => rfl⟩
      simp [Nat.pow_eq]
    · rename_i hx
      obtain ⟨k, hk⟩ := Int.eq_ofNat_of_zero_le (show 0 ≤ -x by omega)
      have hxk : x = -(k : Int) := by omega
      refine ⟨_, _, Nat.pow_pos (by decide), ?_, fun s => rfl⟩
      rw [hk, hxk, zpow_neg, zpow_natCast, ← div_eq_mul_inv]
      simp

/-- **A decimal number is read as the value in whose interval it lies** (`Nearest`). -/
theorem ofDecimal_of_nearest {m : Nat} {e : Int} (h : IsCanonical m e) (hm : 0 < m) (s : Bool)
    {ds : List Nat} (hds : ∀ d ∈ ds, d < 10) {x : Int}
    (hr : Nearest (digitsValue ds * 10 ^ x) m e) : ofDecimal s ds x = .finite s m e h := by
  obtain ⟨hlow, hhigh⟩ := nearest_range h hm hr
  obtain ⟨num, den, hden, hvalue, hread⟩ := ofDecimal_eq_ofRatio hds hlow hhigh
  rw [hread]
  exact ofRatio_of_nearest h hm s hden (hvalue ▸ hr)

/-- **Zeros are read as zero**, with any exponent `x`. -/
theorem ofDecimal_of_zero (s : Bool) {ds : List Nat} (hds : ∀ d ∈ ds, d = 0) (x : Int)
    (h : IsCanonical 0 (-1074)) : ofDecimal s ds x = .finite s 0 (-1074) h := by
  have hsig : ds.dropWhile (· == 0) = [] := by
    rw [List.dropWhile_eq_nil_iff]
    intro d hd
    simpa using hds d hd
  unfold ofDecimal
  simp only [hsig, List.isEmpty_nil, Bool.true_or, if_true]
  rw [ofRatio, if_pos rfl, ofMagnitude, dif_pos h]

end PrinterConsole.Number
