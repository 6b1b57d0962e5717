/-
  The shortest decimal number stands for its value.

  A decimal grid is searched for a point in the interval of the value, from one digit on
  (`onGrid?`).  What is found lies in that interval (`nearest_of_onGrid?`).  If none of the grids
  of up to 17 digits had a point in it, the value rounded to 17 digits would be taken; that lies
  in the interval as well, since 53 bits are less than 16 digits (`nearest_of_close`).  So
  whichever way it was found, the decimal number is rounded back to the value.

  Main statement: the digits of a value are those of a decimal number in its interval
  (`shortest_spec`).
-/
import PrinterConsole.Proofs.Number.Digits
import PrinterConsole.Proofs.Number.Nearest

namespace PrinterConsole.Number.DigitString

open Binary64

/-! ## Grids

  A text of some number of digits is a point of a grid of decimals.  It stands for a magnitude if it
  lies in the interval that is rounded to it, and this is decided in whole numbers. -/

theorem ungrid_pos (num : Nat) {den : Nat} (hd : 0 < den) (q : Int) : 0 < (ungrid num den q).2 := by
  unfold ungrid
  split
  · exact Nat.mul_pos hd (Nat.pow_pos (by decide))
  · exact hd

/-- `ungrid` divides a ratio by a power of ten. -/
theorem ungrid_eq (num den : Nat) (q : Int) :
    ((ungrid num den q).1 : ℚ) / (ungrid num den q).2 = num / den / 10 ^ q := by
  unfold ungrid
  split
  · rename_i hq
    obtain ⟨k, rfl⟩ := Int.eq_ofNat_of_zero_le hq
    simp only [Int.toNat_natCast, Nat.pow_eq, Nat.cast_mul, Nat.cast_pow, Nat.cast_ofNat,
      zpow_natCast]
    rw [div_div]
  · rename_i hq
    obtain ⟨k, hk⟩ := Int.eq_ofNat_of_zero_le (show 0 ≤ -q by omega)
    rw [show q = -(k : Int) by omega]
    simp only [neg_neg, Int.toNat_natCast, Nat.pow_eq, Nat.cast_mul, Nat.cast_pow, Nat.cast_ofNat,
      zpow_neg, zpow_natCast, div_inv_eq_mul]
    rw [mul_div_right_comm]

/-- A bound in quarters, on a grid where one quarter is `a / b` steps. -/
theorem mul_quarter_le_iff {a b : Nat} (hb : 0 < b) {e q : Int}
    (hab : (a : ℚ) / b = 2 ^ (e - 2) / 10 ^ q) (k c : Nat) :
    (k * a ≤ c * b ↔ (k : ℚ) * 2 ^ (e - 2) ≤ c * 10 ^ q) ∧
    (c * b ≤ k * a ↔ (c : ℚ) * 10 ^ q ≤ k * 2 ^ (e - 2)) := by
  have hb' : (0 : ℚ) < b := Nat.cast_pos.2 hb
  have hten : (0 : ℚ) < 10 ^ q := zpow_pos (by norm_num) q
  have hstep : (2 : ℚ) ^ (e - 2) = a / b * 10 ^ q := by
    rw [hab, div_mul_cancel₀ _ hten.ne']
  constructor
  · rw [hstep, ← mul_assoc, mul_le_mul_iff_left₀ hten, ← mul_div_assoc, div_le_iff₀ hb']
    norm_cast
  · rw [hstep, ← mul_assoc, mul_le_mul_iff_left₀ hten, ← mul_div_assoc, le_div_iff₀ hb']
    norm_cast

/-- A grid point `c` stands for a value exactly if it lies in the interval of the value
    (`Nearest`). -/
theorem stands_iff {a b : Nat} (hb : 0 < b) {e q : Int}
    (hab : (a : ℚ) / b = 2 ^ (e - 2) / 10 ^ q) (m c : Nat) :
    stands m e a b c ↔ Nearest (c * 10 ^ q) m e := by
  obtain ⟨hlow, hlow'⟩ := mul_quarter_le_iff hb hab (lowEnd m e) c
  obtain ⟨hhigh, hhigh'⟩ := mul_quarter_le_iff hb hab (highEnd m) c
  unfold stands Nearest
  split
  · rw [Bool.and_eq_true, decide_eq_true_eq, decide_eq_true_eq, hlow, hhigh']
  · rw [Bool.and_eq_true, decide_eq_true_eq, decide_eq_true_eq, ← not_le, ← not_le, hlow', hhigh,
      not_le, not_le]

/-- **A grid point that is found lies in the interval of the value** (`Nearest`). -/
theorem nearest_of_onGrid? {m : Nat} {e q : Int} {c : Nat} (h : onGrid? m e q = some c) :
    Nearest (c * 10 ^ q) m e := by
  have hb := ungrid_pos (ratio 1 (e - 2)).1 (ratio_pos 1 (e - 2)) q
  have hab := ungrid_eq (ratio 1 (e - 2)).1 (ratio 1 (e - 2)).2 q
  rw [ratio_eq, Nat.cast_one, one_mul] at hab
  rw [← stands_iff hb hab]
  simp only [onGrid?] at h
  split at h
  · split at h
    · cases h
      split <;> assumption
    · cases h
      assumption
  · split at h
    · cases h
      assumption
    · cases h

/-! ## Seventeen digits

  With seventeen digits the grid is finer than the interval of any magnitude.  So the search for the
  shortest text ends there at the latest, and what it finds is read back. -/

/-- The place of the point (`pointOf`) is not too high. -/
theorem pow_pointOf_le {num den : Nat} (hn : 0 < num) (hd : 0 < den) :
    (10 : ℚ) ^ (pointOf num den - 1) ≤ num / den := by
  have hden : (0 : ℚ) < den := Nat.cast_pos.2 hd
  unfold pointOf
  dsimp only
  split
  · rename_i hle
    have hq : 0 < num / den := Nat.div_pos hle hd
    have hpow := pow_length_toDigits_le hq
    have hlen : 0 < (Nat.toDigits 10 (num / den)).length := Nat.length_toDigits_pos
    generalize (Nat.toDigits 10 (num / den)).length = n at *
    rw [show (n : Int) - 1 = ((n - 1 : Nat) : Int) by omega, zpow_natCast, le_div_iff₀ hden]
    have hmul := (Nat.le_div_iff_mul_le hd).1 hpow
    exact_mod_cast hmul
  · have hpow := lt_pow_length_toDigits (den / num)
    have hlen : 0 < (Nat.toDigits 10 (den / num)).length := Nat.length_toDigits_pos
    generalize (Nat.toDigits 10 (den / num)).length = n at *
    split
    · -- the ratio is a power of ten itself
      rename_i heq
      rw [Nat.pow_eq] at heq
      rw [show (2 : Int) - n - 1 = -((n - 1 : Nat) : Int) by omega, zpow_neg, zpow_natCast,
        inv_le_iff_one_le_mul₀ (by positivity), ← mul_div_right_comm, le_div_iff₀ hden, one_mul]
      exact_mod_cast heq.symm.le
    · rw [show (1 : Int) - n - 1 = -(n : Int) by omega, zpow_neg, zpow_natCast,
        inv_le_iff_one_le_mul₀ (by positivity), ← mul_div_right_comm, le_div_iff₀ hden, one_mul]
      have hmul := (Nat.div_lt_iff_lt_mul hn).1 hpow
      rw [Nat.mul_comm] at hmul
      exact_mod_cast hmul.le

/-- The place of the point (`pointOf`) is not too low. -/
theorem lt_pow_pointOf {num den : Nat} (hn : 0 < num) (hd : 0 < den) :
    (num : ℚ) / den < 10 ^ pointOf num den := by
  have hden : (0 : ℚ) < den := Nat.cast_pos.2 hd
  unfold pointOf
  dsimp only
  split
  · have hpow := lt_pow_length_toDigits (num / den)
    rw [zpow_natCast, div_lt_iff₀ hden]
    have hmul := (Nat.div_lt_iff_lt_mul hd).1 hpow
    exact_mod_cast hmul
  · rename_i hlt
    -- below one, the zeros behind the point are counted by the inverse
    have hq : 0 < den / num := Nat.div_pos (Nat.le_of_not_le hlt) hn
    have hpow := pow_length_toDigits_le hq
    have hlen : 0 < (Nat.toDigits 10 (den / num)).length := Nat.length_toDigits_pos
    have hmul := (Nat.le_div_iff_mul_le hn).1 hpow
    generalize (Nat.toDigits 10 (den / num)).length = n at *
    obtain ⟨k, rfl⟩ := Nat.exists_eq_add_of_le' hlen
    rw [Nat.add_sub_cancel, Nat.mul_comm] at hmul
    rw [Nat.add_sub_cancel]
    split
    · -- the ratio is a power of ten itself
      rename_i heq
      rw [Nat.pow_eq] at heq
      have heq' : (num : ℚ) * 10 ^ k = den := by exact_mod_cast heq
      rw [show (2 : Int) - ((k + 1 : Nat) : Int) = 1 + -(k : Int) by push_cast; ring,
        zpow_one_add₀ (by norm_num), zpow_neg, zpow_natCast, div_lt_iff₀ hden, ← heq']
      field_simp
      norm_num
    · rename_i hne
      rw [Nat.pow_eq] at hne
      have hlt' : (num : ℚ) * 10 ^ k < den := by exact_mod_cast lt_of_le_of_ne hmul hne
      rw [show (1 : Int) - ((k + 1 : Nat) : Int) = -(k : Int) by push_cast; ring, zpow_neg,
        zpow_natCast, div_lt_iff₀ hden, lt_inv_mul_iff₀ (by positivity), mul_comm]
      exact hlt'

theorem ratio_eq_ungrid (num den : Nat) (q : Int) :
    (num : ℚ) / den = (ungrid num den q).1 / (ungrid num den q).2 * 10 ^ q := by
  rw [ungrid_eq, div_mul_cancel₀ _ (zpow_pos (by norm_num) q).ne']

/-- **A ratio rounded to `n` digits** by `significant` is at most half a unit of the last of them
    off. -/
theorem significant_spec (n num : Nat) {den : Nat} (hd : 0 < den) :
    ∃ c, significant n num den = ofScaled c (pointOf num den - n) ∧
      (2 * (c : ℚ) - 1) * 10 ^ (pointOf num den - n) ≤ 2 * (num / den) ∧
      2 * (num / den : ℚ) ≤ (2 * c + 1) * 10 ^ (pointOf num den - n) := by
  refine ⟨_, rfl, ?_⟩
  have hten : (0 : ℚ) < 10 ^ (pointOf num den - n) := zpow_pos (by norm_num) _
  have hpos := ungrid_pos num hd (pointOf num den - n)
  obtain ⟨hlow, hhigh⟩ := halfEven_near (ungrid num den (pointOf num den - n)).1 hpos
  rw [ratio_eq_ungrid num den (pointOf num den - n), ← mul_assoc, mul_le_mul_iff_left₀ hten,
    mul_le_mul_iff_left₀ hten]
  exact ⟨hlow, hhigh⟩

/-- A decimal number within half a step of a grid that has 17 digits lies in the interval
    (`Nearest`): 16 digits are more than 53 bits. -/
theorem nearest_of_close {m : Nat} {e : Int} (h : IsCanonical m e) (hm : 0 < m) {r step : ℚ}
    (hstep : step * 10 ^ 16 ≤ m * 2 ^ e) (hlow : m * 2 ^ e - step / 2 ≤ r)
    (hhigh : r ≤ m * 2 ^ e + step / 2) : Nearest r m e := by
  have hu : (0 : ℚ) < 2 ^ (e - 2) := zpow_pos (by norm_num) _
  rw [two_zpow_eq e] at hstep hlow hhigh
  have hm53 : (m : ℚ) * 2 ^ (e - 2) ≤ 2 ^ 53 * 2 ^ (e - 2) := by
    have hnat : m ≤ 2 ^ 53 := by
      have := h.1
      rw [Nat.pow_eq] at this
      omega
    exact mul_le_mul_of_nonneg_right (by exact_mod_cast hnat) hu.le
  have hbelow : (lowEnd m e : ℚ) * 2 ^ (e - 2) < r := by
    unfold lowEnd
    split
    · rename_i hmin
      -- at a power of two the numbers below are twice as close
      have hcast : (m : ℚ) = 2 ^ 52 := by
        rw [hmin.1, Nat.pow_eq]
        norm_num
      rw [Nat.cast_sub (by omega)]
      push_cast
      rw [hcast] at hstep hlow ⊢
      norm_num at hstep hlow ⊢
      linarith
    · rw [Nat.cast_sub (by omega)]
      push_cast
      norm_num at hstep hlow hm53 ⊢
      linarith
  have habove : r < highEnd m * 2 ^ (e - 2) := by
    unfold highEnd
    push_cast
    norm_num at hstep hhigh hm53 ⊢
    linarith
  unfold Nearest
  split
  · exact ⟨hbelow.le, habove.le⟩
  · exact ⟨hbelow, habove⟩

/-- The value rounded to 17 digits lies in its interval (`Nearest`). -/
theorem nearest_of_significant {m : Nat} {e : Int} (h : IsCanonical m e) (hm : 0 < m) :
    ∃ c q, significant 17 (ratio m e).1 (ratio m e).2 = ofScaled c q ∧
      Nearest (c * 10 ^ q) m e := by
  set num := (ratio m e).1 with hnum
  set den := (ratio m e).2 with hden
  have hd : 0 < den := ratio_pos m e
  have hratio : (num : ℚ) / den = m * 2 ^ e := ratio_eq m e
  have hn : 0 < num := by
    rw [Nat.pos_iff_ne_zero]
    intro hz
    rw [hz, Nat.cast_zero, zero_div] at hratio
    have : (0 : ℚ) < m * 2 ^ e := mul_pos (Nat.cast_pos.2 hm) (zpow_pos (by norm_num) e)
    linarith
  obtain ⟨c, hsignificant, hlow, hhigh⟩ := significant_spec 17 num hd
  refine ⟨c, _, hsignificant, ?_⟩
  have hstep : (10 : ℚ) ^ (pointOf num den - (17 : Nat)) * 10 ^ 16 ≤ m * 2 ^ e := by
    refine le_of_eq_of_le ?_ (hratio ▸ pow_pointOf_le hn hd)
    rw [← zpow_natCast (10 : ℚ) 16, ← zpow_add₀ (by norm_num)]
    congr 1
    push_cast
    ring
  rw [hratio] at hlow hhigh
  generalize (10 : ℚ) ^ (pointOf num den - (17 : Nat)) = step at *
  refine nearest_of_close h hm hstep ?_ ?_
  · linarith
  · linarith

/-- **The digits that `shortest` gives are those of a decimal number in its interval**, whether a
    grid had a point in it or not. -/
theorem shortest_spec {m : Nat} {e : Int} (h : IsCanonical m e) (hm : 0 < m) :
    ∃ c q, 0 < c ∧ shortest m e = ofScaled c q ∧ Nearest (c * 10 ^ q) m e := by
  -- what lies in the interval is positive
  have hpos : ∀ {c : Nat} {q : Int}, Nearest (c * 10 ^ q) m e → 0 < c := by
    intro c q hc
    rw [Nat.pos_iff_ne_zero]
    rintro rfl
    have := hc.pos hm
    simp at this
  unfold shortest
  dsimp only
  split
  · rename_i d hd
    obtain ⟨k, -, hk⟩ := List.exists_of_findSome?_eq_some hd
    obtain ⟨c, hc, rfl⟩ := Option.map_eq_some_iff.1 hk
    exact ⟨c, _, hpos (nearest_of_onGrid? hc), rfl, nearest_of_onGrid? hc⟩
  · obtain ⟨c, q, hs, hc⟩ := nearest_of_significant h hm
    exact ⟨c, q, hpos hc, hs, hc⟩

end PrinterConsole.Number.DigitString
