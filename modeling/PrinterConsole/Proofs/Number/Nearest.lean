/-
  Which ratios are rounded to a binary floating-point value.

  The magnitudes next to `m * 2 ^ e` are a step of `2 ^ e` away, but below the least magnitude of
  a binade the steps are half as wide.  So the ratios that are rounded to it reach from half a
  step (or a quarter) below it to half a step above it, and the two ends count exactly if `m` is
  even (`Nearest`).  Everything here is measured in quarters of a step, in exact rationals.

  A ratio in the interval of `m * 2 ^ e` has the exponent `e`, or one less just below a binade
  (`exponentFor_of_nearest`).  In the first case the mantissa is rounded to `m`
  (`halfEven_unscale`), in the second it is rounded up to the power of two that is carried over
  (`halfEven_below`).

  Main statements: the exponent chosen for a ratio is the one of its binade (`exponentFor_spec`),
  and a ratio in the interval of a magnitude is rounded to it (`ofRatio_of_nearest`).
-/
import Mathlib.Algebra.Order.Field.Power
import Mathlib.Data.Rat.Cast.Order
import Mathlib.Tactic.Linarith
import Mathlib.Tactic.NormNum
import Mathlib.Tactic.Positivity
import Mathlib.Tactic.FieldSimp
import Mathlib.Tactic.Ring
import PrinterConsole.Number.Shortest

namespace PrinterConsole.Number

/-! ## Rounding a ratio of naturals

  `halfEven` gives the nearest whole number, and the even one of two.  What is within half of a
  number, or on the tie of an even one, is rounded to it. -/

/-- What is at most half a unit away is the rounding (`halfEven`), if it is even or the distance is
    less. -/
theorem halfEven_eq {n d k : Nat} (hd : 0 < d)
    (hlow : if k % 2 = 0 then 2 * (k * d) ≤ 2 * n + d else 2 * (k * d) < 2 * n + d)
    (hhigh : if k % 2 = 0 then 2 * n ≤ 2 * (k * d) + d else 2 * n < 2 * (k * d) + d) :
    halfEven n d = k := by
  have hn := Nat.div_add_mod n d
  have hr := Nat.mod_lt n hd
  rw [Nat.mul_comm] at hn
  -- `k` is the quotient or the next natural
  have hk : k = n / d ∨ k = n / d + 1 := by
    have hge : n / d ≤ k := by
      by_contra hlt
      have hmul : (k + 1) * d ≤ n / d * d := Nat.mul_le_mul_right d (by omega)
      rw [Nat.succ_mul] at hmul
      split at hhigh <;> omega
    have hle : k ≤ n / d + 1 := by
      by_contra hlt
      have hmul : (n / d + 2) * d ≤ k * d := Nat.mul_le_mul_right d (by omega)
      rw [Nat.add_mul] at hmul
      split at hlow <;> omega
    omega
  unfold halfEven
  dsimp only
  rcases hk with hk | hk
  · rw [← hk] at hn ⊢
    split
    · rfl
    · split at hhigh
      · rw [if_neg (by omega), if_pos (by assumption)]
      · omega
  · have hmul : k * d = n / d * d + d := by rw [hk, Nat.succ_mul]
    rw [hmul] at hlow
    split at hlow
    · rw [if_neg (by omega)]
      split
      · exact hk.symm
      · rw [if_neg (by omega)]
        exact hk.symm
    · rw [if_neg (by omega), if_pos (by omega)]
      exact hk.symm

/-- The rounding `halfEven n d` is at most half a unit away from the ratio. -/
theorem halfEven_near (n : Nat) {d : Nat} (hd : 0 < d) :
    2 * (halfEven n d : ℚ) - 1 ≤ 2 * (n / d) ∧ 2 * (n / d : ℚ) ≤ 2 * halfEven n d + 1 := by
  have hd' : (0 : ℚ) < d := Nat.cast_pos.2 hd
  obtain ⟨hlow, hhigh⟩ := halfEven_bounds n hd
  have hlow' : (2 * n : ℚ) ≤ 2 * (halfEven n d * d) + d := by exact_mod_cast hlow
  have hhigh' : (2 * (halfEven n d * d) : ℚ) ≤ 2 * n + d := by exact_mod_cast hhigh
  rw [← mul_div_assoc, le_div_iff₀ hd', div_le_iff₀ hd']
  constructor <;> linarith

/-- What is less than half a unit away is the rounding (`halfEven`), even or not. -/
theorem halfEven_of_close {n d k : Nat} (hd : 0 < d) (hlow : 2 * (k : ℚ) - 1 < 2 * (n / d))
    (hhigh : 2 * (n / d : ℚ) < 2 * k + 1) : halfEven n d = k := by
  have hd' : (0 : ℚ) < d := Nat.cast_pos.2 hd
  rw [← mul_div_assoc, lt_div_iff₀ hd'] at hlow
  rw [← mul_div_assoc, div_lt_iff₀ hd'] at hhigh
  have hlow' : (2 * (k * d) : ℚ) < 2 * n + d := by linarith
  have hhigh' : (2 * n : ℚ) < 2 * (k * d) + d := by linarith
  have hlow'' : 2 * (k * d) < 2 * n + d := by exact_mod_cast hlow'
  have hhigh'' : 2 * n < 2 * (k * d) + d := by exact_mod_cast hhigh'
  refine halfEven_eq hd ?_ ?_ <;> split
  · exact hlow''.le
  · exact hlow''
  · exact hhigh''.le
  · exact hhigh''

namespace Binary64

/-! ## Ratios as rationals

  Numerators and denominators are scaled by powers of two before they are divided.  As rationals
  that is one multiplication, and the denominator is never zero. -/

theorem unscale_pos (num : Nat) {den : Nat} (hd : 0 < den) (e : Int) :
    0 < (unscale num den e).2 := by
  unfold unscale
  split
  · exact Nat.mul_pos hd (Nat.pow_pos (by decide))
  · exact hd

/-- `unscale` divides a ratio by a power of two. -/
theorem unscale_eq (num den : Nat) (e : Int) :
    ((unscale num den e).1 : ℚ) / (unscale num den e).2 = num / den / 2 ^ e := by
  unfold unscale
  split
  · rename_i he
    obtain ⟨k, rfl⟩ := Int.eq_ofNat_of_zero_le he
    simp only [Int.toNat_natCast, Nat.pow_eq, Nat.cast_mul, Nat.cast_pow, Nat.cast_ofNat,
      zpow_natCast]
    rw [div_div]
  · rename_i he
    obtain ⟨k, hk⟩ := Int.eq_ofNat_of_zero_le (show 0 ≤ -e by omega)
    rw [show e = -(k : Int) by omega]
    simp only [neg_neg, Int.toNat_natCast, Nat.pow_eq, Nat.cast_mul, Nat.cast_pow, Nat.cast_ofNat,
      zpow_neg, zpow_natCast, div_inv_eq_mul]
    rw [mul_div_right_comm]

theorem ratio_pos (m : Nat) (e : Int) : 0 < (ratio m e).2 := by
  unfold ratio
  split
  · exact Nat.one_pos
  · exact Nat.pow_pos (by decide)

/-- The `ratio` of a magnitude is the magnitude. -/
theorem ratio_eq (m : Nat) (e : Int) : ((ratio m e).1 : ℚ) / (ratio m e).2 = m * 2 ^ e := by
  unfold ratio
  split
  · rename_i he
    obtain ⟨k, rfl⟩ := Int.eq_ofNat_of_zero_le he
    simp only [Int.toNat_natCast, Nat.pow_eq, Nat.cast_mul, Nat.cast_pow, Nat.cast_ofNat,
      zpow_natCast, Nat.cast_one, div_one]
  · rename_i he
    obtain ⟨k, hk⟩ := Int.eq_ofNat_of_zero_le (show 0 ≤ -e by omega)
    rw [show e = -(k : Int) by omega]
    simp only [neg_neg, Int.toNat_natCast, Nat.pow_eq, Nat.cast_pow, Nat.cast_ofNat, zpow_neg,
      zpow_natCast]
    rw [div_eq_mul_inv]

/-! ## The exponent of a ratio

  The exponent is guessed from the lengths of numerator and denominator and corrected by one.  With
  it the ratio has a mantissa of 53 bits, or the least exponent there is. -/

/-- The bit lengths of a ratio's parts tell its binade up to one (`Nat.log2`). -/
theorem ratio_bounds {num den : Nat} (hn : 0 < num) (hd : 0 < den) :
    (2 : ℚ) ^ ((Nat.log2 num : Int) - Nat.log2 den - 1) < num / den ∧
      (num : ℚ) / den < 2 ^ ((Nat.log2 num : Int) - Nat.log2 den + 1) := by
  have hden : (0 : ℚ) < den := Nat.cast_pos.2 hd
  have hnlow : (2 : ℚ) ^ (Nat.log2 num : Int) ≤ num := by
    rw [zpow_natCast]
    exact_mod_cast Nat.log2_self_le hn.ne'
  have hnhigh : (num : ℚ) < 2 ^ ((Nat.log2 num : Int) + 1) := by
    have h : num < 2 ^ (Nat.log2 num + 1) := Nat.lt_log2_self
    exact_mod_cast h
  have hdlow : (2 : ℚ) ^ (Nat.log2 den : Int) ≤ den := by
    rw [zpow_natCast]
    exact_mod_cast Nat.log2_self_le hd.ne'
  have hdhigh : (den : ℚ) < 2 ^ ((Nat.log2 den : Int) + 1) := by
    have h : den < 2 ^ (Nat.log2 den + 1) := Nat.lt_log2_self
    exact_mod_cast h
  constructor
  · rw [lt_div_iff₀ hden]
    calc (2 : ℚ) ^ ((Nat.log2 num : Int) - Nat.log2 den - 1) * den
        < 2 ^ ((Nat.log2 num : Int) - Nat.log2 den - 1) * 2 ^ ((Nat.log2 den : Int) + 1) :=
          mul_lt_mul_of_pos_left hdhigh (by positivity)
      _ = 2 ^ (Nat.log2 num : Int) := by
          rw [← zpow_add₀ (by norm_num)]
          congr 1
          ring
      _ ≤ num := hnlow
  · rw [div_lt_iff₀ hden]
    calc (num : ℚ) < 2 ^ ((Nat.log2 num : Int) + 1) := hnhigh
      _ = 2 ^ ((Nat.log2 num : Int) - Nat.log2 den + 1) * 2 ^ (Nat.log2 den : Int) := by
          rw [← zpow_add₀ (by norm_num)]
          congr 1
          ring
      _ ≤ 2 ^ ((Nat.log2 num : Int) - Nat.log2 den + 1) * den :=
          mul_le_mul_of_nonneg_left hdlow (by positivity)

/-- **The exponent of a ratio** (`exponentFor`): its mantissa has at most 53 bits, and all of them
    unless the exponent is the lowest. -/
theorem exponentFor_spec {num den : Nat} (hn : 0 < num) (hd : 0 < den) :
    -1074 ≤ exponentFor num den ∧
    (num : ℚ) / den < 2 ^ (53 : Nat) * 2 ^ exponentFor num den ∧
    ((2 : ℚ) ^ (52 : Nat) * 2 ^ exponentFor num den ≤ num / den ∨
      exponentFor num den = -1074) := by
  obtain ⟨hlow, hhigh⟩ := ratio_bounds hn hd
  have htwo : (2 : ℚ) ≠ 0 := by norm_num
  -- the exponent before it is raised to the lowest one
  obtain ⟨e, he, hle, hlt⟩ : ∃ e : Int, exponentFor num den = max e (-1074) ∧
      (2 : ℚ) ^ (52 : Nat) * 2 ^ e ≤ num / den ∧ (num : ℚ) / den < 2 ^ (53 : Nat) * 2 ^ e := by
    set g : Int := (Nat.log2 num : Int) - Nat.log2 den - 52 with hg
    have hpos := unscale_pos num hd g
    have hfloor : (unscale num den g).1 / (unscale num den g).2 < Nat.pow 2 52 ↔
        (num : ℚ) / den < 2 ^ (52 : Nat) * 2 ^ g := by
      rw [Nat.div_lt_iff_lt_mul hpos, ← div_lt_iff₀ (zpow_pos (by norm_num) g), ← unscale_eq,
        div_lt_iff₀ (Nat.cast_pos.2 hpos)]
      norm_cast
    have hdef : exponentFor num den = max (if (unscale num den g).1 / (unscale num den g).2 <
        Nat.pow 2 52 then g - 1 else g) (-1074) := rfl
    by_cases hsmall : (num : ℚ) / den < 2 ^ (52 : Nat) * 2 ^ g
    · refine ⟨g - 1, by rw [hdef, if_pos (hfloor.2 hsmall)], ?_, ?_⟩
      · refine le_of_eq_of_le ?_ hlow.le
        rw [← zpow_natCast, ← zpow_add₀ htwo]
        congr 1
        push_cast
        omega
      · refine hsmall.trans_eq ?_
        rw [zpow_sub_one₀ htwo]
        ring
    · refine ⟨g, by rw [hdef, if_neg fun h => hsmall (hfloor.1 h)], not_lt.1 hsmall, ?_⟩
      refine hhigh.trans_eq ?_
      rw [← zpow_natCast, ← zpow_add₀ htwo]
      congr 1
      push_cast
      omega
  rcases le_total (-1074) e with hge | hge
  · rw [he, max_eq_left hge]
    exact ⟨hge, hlt, .inl hle⟩
  · rw [he, max_eq_right hge]
    refine ⟨le_rfl, hlt.trans_le ?_, .inr rfl⟩
    exact mul_le_mul_of_nonneg_left (zpow_le_zpow_right₀ (by norm_num) hge) (by positivity)

/-! ## The interval of a magnitude

  All rationals in the interval around a magnitude are rounded to it (`ofRatio_of_nearest`), so to
  read a number back it is enough that it stays inside. -/

/-- `r` is rounded to `m * 2 ^ e`: it lies in the interval of that magnitude from `lowEnd` to
    `highEnd`, whose ends belong to it if `m` is even. -/
def Nearest (r : ℚ) (m : Nat) (e : Int) : Prop :=
  if m % 2 = 0 then lowEnd m e * 2 ^ (e - 2) ≤ r ∧ r ≤ highEnd m * 2 ^ (e - 2)
  else lowEnd m e * 2 ^ (e - 2) < r ∧ r < highEnd m * 2 ^ (e - 2)

theorem two_zpow_eq (e : Int) : (2 : ℚ) ^ e = 4 * 2 ^ (e - 2) := by
  rw [show e = 2 + (e - 2) by ring, zpow_add₀ (by norm_num), show 2 + (e - 2) - 2 = e - 2 by ring]
  norm_num

section Nearest

variable {r : ℚ} {m : Nat} {e : Int}

theorem Nearest.low_le (h : Nearest r m e) : lowEnd m e * 2 ^ (e - 2) ≤ r := by
  unfold Nearest at h
  split at h
  · exact h.1
  · exact h.1.le

theorem Nearest.le_high (h : Nearest r m e) : r ≤ highEnd m * 2 ^ (e - 2) := by
  unfold Nearest at h
  split at h
  · exact h.2
  · exact h.2.le

theorem Nearest.lt_of_odd (h : Nearest r m e) (ho : ¬ m % 2 = 0) :
    lowEnd m e * 2 ^ (e - 2) < r ∧ r < highEnd m * 2 ^ (e - 2) := by
  unfold Nearest at h
  rwa [if_neg ho] at h

/-- The lower end (`lowEnd`) is half a step away or less. -/
theorem le_lowEnd (m : Nat) (e : Int) : 4 * m - 2 ≤ lowEnd m e := by
  unfold lowEnd
  split <;> omega

theorem Nearest.pos (h : Nearest r m e) (hm : 0 < m) : 0 < r := by
  have hlow : 0 < lowEnd m e := lt_of_lt_of_le (by omega) (le_lowEnd m e)
  exact lt_of_lt_of_le (mul_pos (Nat.cast_pos.2 hlow) (zpow_pos (by norm_num) _)) h.low_le

/-- In half steps the interval of `m * 2 ^ e` reaches from one below to one above; here the quarter
    below a binade does not show. -/
theorem Nearest.half_steps (h : Nearest r m e) :
    (if m % 2 = 0 then (2 * m - 1 : ℚ) * 2 ^ e ≤ 2 * r else (2 * m - 1 : ℚ) * 2 ^ e < 2 * r) ∧
      if m % 2 = 0 then 2 * r ≤ (2 * m + 1 : ℚ) * 2 ^ e else 2 * r < (2 * m + 1 : ℚ) * 2 ^ e := by
  have hu : (0 : ℚ) < 2 ^ (e - 2) := zpow_pos (by norm_num) _
  have hlow : (4 * m - 2 : ℚ) * 2 ^ (e - 2) ≤ lowEnd m e * 2 ^ (e - 2) := by
    have hnat : 4 * m ≤ lowEnd m e + 2 := by
      have := le_lowEnd m e
      omega
    have hcast : (4 * m : ℚ) ≤ lowEnd m e + 2 := by exact_mod_cast hnat
    exact mul_le_mul_of_nonneg_right (by linarith) hu.le
  have hhigh : (highEnd m : ℚ) = 4 * m + 2 := by
    unfold highEnd
    push_cast
    ring
  rw [two_zpow_eq e]
  by_cases heven : m % 2 = 0
  · have hl := h.low_le
    have hh := h.le_high
    rw [hhigh] at hh
    rw [if_pos heven, if_pos heven]
    constructor <;> linarith
  · obtain ⟨hl, hh⟩ := h.lt_of_odd heven
    rw [hhigh] at hh
    rw [if_neg heven, if_neg heven]
    constructor <;> linarith

/-- Above the lowest exponent, `-1074`, the interval begins at most a quarter below its binade. -/
theorem le_lowEnd_of_normal (h : IsCanonical m e) (he : -1074 < e) :
    4 * 2 ^ 52 - 1 ≤ lowEnd m e := by
  obtain ⟨-, -, -, hm | hm⟩ := h
  · unfold lowEnd
    rw [Nat.pow_eq] at hm ⊢
    split <;> omega
  · omega

end Nearest

/-- A ratio in the interval of a magnitude has at most its exponent `e`. -/
theorem exponentFor_le_of_nearest {m : Nat} {e : Int} (h : IsCanonical m e) {num den : Nat}
    (hn : 0 < num) (hd : 0 < den) (hr : Nearest ((num : ℚ) / den) m e) :
    exponentFor num den ≤ e := by
  obtain ⟨-, -, hfull⟩ := exponentFor_spec hn hd
  obtain ⟨hm, he, -, -⟩ := h
  rw [Nat.pow_eq] at hm
  have hupper : (num : ℚ) / den < 2 ^ (53 : Nat) * 2 ^ e := by
    refine hr.le_high.trans_lt ?_
    have hhigh : (highEnd m : ℚ) < 2 ^ (53 : Nat) * 4 := by
      have : highEnd m < 2 ^ 53 * 4 := by unfold highEnd; omega
      exact_mod_cast this
    rw [two_zpow_eq e, ← mul_assoc]
    exact mul_lt_mul_of_pos_right hhigh (zpow_pos (by norm_num) _)
  by_contra hgt
  have hfull' := hfull.resolve_right (by omega)
  have hmono : (2 : ℚ) ^ (e + 1) ≤ 2 ^ exponentFor num den :=
    zpow_le_zpow_right₀ (by norm_num) (by omega)
  rw [zpow_add_one₀ (by norm_num)] at hmono
  linarith

/-- The exponent of a ratio in the interval of a magnitude is that of the magnitude, or one less
    just below a binade, where the mantissa is `2 ^ 52`. -/
theorem exponentFor_of_nearest {m : Nat} {e : Int} (h : IsCanonical m e) {num den : Nat}
    (hn : 0 < num) (hd : 0 < den) (hr : Nearest ((num : ℚ) / den) m e) :
    exponentFor num den = e ∨
      exponentFor num den = e - 1 ∧ m = 2 ^ 52 ∧ -1074 < e ∧ (num : ℚ) / den < 2 ^ 52 * 2 ^ e := by
  obtain ⟨hlowest, hlt, -⟩ := exponentFor_spec hn hd
  have hle := exponentFor_le_of_nearest h hn hd hr
  set r : ℚ := num / den
  set e' := exponentFor num den
  have htwo : (2 : ℚ) ≠ 0 := by norm_num
  obtain ⟨-, -, -, hnormal⟩ := id h
  rw [Nat.pow_eq] at hnormal
  have hu : (0 : ℚ) < 2 ^ (e - 2) := zpow_pos (by norm_num) _
  have hstep := two_zpow_eq e
  rcases hle.eq_or_lt with heq | hlt'
  · exact .inl heq
  · right
    have he' : -1074 < e := by omega
    have hbelow : (2 : ℚ) ^ e' * 2 ≤ 2 ^ e := by
      rw [← zpow_add_one₀ htwo]
      exact zpow_le_zpow_right₀ (by norm_num) (by omega)
    have hm : m = 2 ^ 52 := by
      by_contra hne
      have hlow : (4 * 2 ^ 52 : ℚ) ≤ lowEnd m e := by
        have : 4 * 2 ^ 52 ≤ lowEnd m e := by
          have := le_lowEnd m e
          omega
        exact_mod_cast this
      have := mul_le_mul_of_nonneg_right hlow hu.le
      have := hr.low_le
      linarith
    have hlow : (4 * 2 ^ 52 - 1 : ℚ) ≤ lowEnd m e := by
      have hnat := le_lowEnd_of_normal h he'
      have : 4 * 2 ^ 52 ≤ lowEnd m e + 1 := by omega
      have hcast : (4 * 2 ^ 52 : ℚ) ≤ lowEnd m e + 1 := by exact_mod_cast this
      linarith
    refine ⟨?_, hm, he', by linarith⟩
    -- two binades further down nothing of the interval is left
    by_contra hne
    have htwice : (2 : ℚ) ^ e' * 4 ≤ 2 ^ e := by
      have : (2 : ℚ) ^ (e' + 1 + 1) ≤ 2 ^ e := zpow_le_zpow_right₀ (by norm_num) (by omega)
      rw [zpow_add_one₀ htwo, zpow_add_one₀ htwo] at this
      linarith
    have := mul_le_mul_of_nonneg_right hlow hu.le
    have := hr.low_le
    linarith

/-- A ratio at most half a step from `k * 2 ^ e` is rounded to `k` steps, if `k` is even or the
    distance is less. -/
theorem halfEven_unscale {num den : Nat} (hd : 0 < den) {e : Int} {k : Nat}
    (hlow : if k % 2 = 0 then (2 * k - 1 : ℚ) * 2 ^ e ≤ 2 * (num / den)
      else (2 * k - 1 : ℚ) * 2 ^ e < 2 * (num / den))
    (hhigh : if k % 2 = 0 then 2 * (num / den) ≤ (2 * k + 1 : ℚ) * 2 ^ e
      else 2 * (num / den) < (2 * k + 1 : ℚ) * 2 ^ e) :
    halfEven (unscale num den e).1 (unscale num den e).2 = k := by
  have hpos := unscale_pos num hd e
  have hstep : (0 : ℚ) < 2 ^ e := zpow_pos (by norm_num) e
  have hden : (0 : ℚ) < (unscale num den e).2 := Nat.cast_pos.2 hpos
  have hratio : (num : ℚ) / den =
      (unscale num den e).1 / (unscale num den e).2 * 2 ^ e := by
    rw [unscale_eq, div_mul_cancel₀ _ hstep.ne']
  -- the step cancels out, and the bounds are about whole numbers
  generalize unscale num den e = p at *
  rw [hratio, ← mul_assoc, mul_le_mul_iff_left₀ hstep, mul_lt_mul_iff_left₀ hstep,
    ← mul_div_assoc, le_div_iff₀ hden, lt_div_iff₀ hden] at hlow
  rw [hratio, ← mul_assoc, mul_le_mul_iff_left₀ hstep, mul_lt_mul_iff_left₀ hstep,
    ← mul_div_assoc, div_le_iff₀ hden, div_lt_iff₀ hden] at hhigh
  by_cases hk : k % 2 = 0
  · rw [if_pos hk] at hlow hhigh
    have hlow' : (2 * (k * p.2) : ℚ) ≤ 2 * p.1 + p.2 := by linarith
    have hhigh' : (2 * p.1 : ℚ) ≤ 2 * (k * p.2) + p.2 := by linarith
    refine halfEven_eq hpos ?_ ?_ <;> rw [if_pos hk]
    · exact_mod_cast hlow'
    · exact_mod_cast hhigh'
  · rw [if_neg hk] at hlow hhigh
    have hlow' : (2 * (k * p.2) : ℚ) < 2 * p.1 + p.2 := by linarith
    have hhigh' : (2 * p.1 : ℚ) < 2 * (k * p.2) + p.2 := by linarith
    refine halfEven_eq hpos ?_ ?_ <;> rw [if_neg hk]
    · exact_mod_cast hlow'
    · exact_mod_cast hhigh'

/-- Just below a binade the mantissa is rounded up to a power of two, `2 ^ 53` at the lesser
    exponent. -/
theorem halfEven_below {e : Int} (he : -1074 < e) {num den : Nat} (hd : 0 < den)
    (hr : Nearest ((num : ℚ) / den) (2 ^ 52) e) (hbelow : (num : ℚ) / den < 2 ^ 52 * 2 ^ e) :
    halfEven (unscale num den (e - 1)).1 (unscale num den (e - 1)).2 = 2 ^ 53 := by
  have hhalf : (2 : ℚ) ^ e = 2 ^ (e - 1) * 2 := by
    rw [← zpow_add_one₀ (by norm_num), sub_add_cancel]
  have hu : (2 : ℚ) ^ (e - 1) = 2 * 2 ^ (e - 2) := by
    have := two_zpow_eq e
    linarith
  have hlow := hr.low_le
  rw [lowEnd, if_pos ⟨rfl, he⟩] at hlow
  norm_num at hlow
  refine halfEven_unscale hd ?_ ?_
  · rw [if_pos (by norm_num), hu]
    norm_num
    linarith
  · rw [if_pos (by norm_num)]
    rw [hhalf] at hbelow
    norm_num at hbelow ⊢
    linarith [zpow_pos (show (0 : ℚ) < 2 by norm_num) (e - 1)]

/-- **What lies in the interval of a magnitude is rounded to it** by `ofRatio`. -/
theorem ofRatio_of_nearest {m : Nat} {e : Int} (h : IsCanonical m e) (hm : 0 < m) (s : Bool)
    {num den : Nat} (hd : 0 < den) (hr : Nearest ((num : ℚ) / den) m e) :
    ofRatio s num den = finite s m e h := by
  have hnum : 0 < num := by
    have hpos := hr.pos hm
    rw [Nat.pos_iff_ne_zero]
    rintro rfl
    simp at hpos
  have hdef : ofRatio s num den = ofMagnitude s
      (halfEven (unscale num den (exponentFor num den)).1 (unscale num den (exponentFor num den)).2)
      (exponentFor num den) := by
    rw [ofRatio, if_neg hnum.ne']
  rcases exponentFor_of_nearest h hnum hd hr with heq | ⟨heq, hmin, he, hbelow⟩
  · -- in the binade of the magnitude
    have hround : halfEven (unscale num den e).1 (unscale num den e).2 = m :=
      halfEven_unscale hd hr.half_steps.1 hr.half_steps.2
    rw [hdef, heq, hround, ofMagnitude, dif_pos h]
  · -- just below it: the mantissa is rounded up to a power of two and carried
    subst hmin
    have hround := halfEven_below he hd hr hbelow
    have hfull : ¬ IsCanonical (2 ^ 53) (e - 1) := fun hc => absurd hc.1 (by decide)
    have hcarried : 2 ^ 53 / 2 = 2 ^ 52 ∧ e - 1 + 1 = e := ⟨rfl, by ring⟩
    rw [hdef, heq, hround, ofMagnitude, dif_neg hfull]
    simp only [hcarried.1, hcarried.2]
    rw [dif_pos h]

end Binary64

end PrinterConsole.Number
