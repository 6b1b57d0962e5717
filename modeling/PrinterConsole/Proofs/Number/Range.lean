/-
  Which ratios are too large for a binary floating-point value.

  The greatest magnitude is `2 ^ 53 - 1` steps of `2 ^ 971`.  A ratio half a step above it is a
  tie (`tooLarge`), and the even mantissa at that place, `2 ^ 53`, is out of range: so the ratios
  below the tie are finite, and they alone.

  A rounded mantissa has at most 53 bits or is the carry (`mantissa_bounds`), so whether the value
  is finite is decided by the exponent, and at the greatest exponent by whether the mantissa was
  carried (`isFinite_ofMagnitude_full`).

  Main statements: `isFinite_ofRatio_iff`, and a quotient of whole numbers is finite if the
  quotient of a greater one by the same divisor is (`exists_quotient?_of_le`).
-/
import PrinterConsole.Proofs.Number.Nearest

namespace PrinterConsole.Number.Binary64

/-- The least ratio that is too large: half a step of `2 ^ 971` above the greatest magnitude. -/
def tooLarge : ℚ := (2 ^ 54 - 1) * 2 ^ (970 : Int)

/-- The mantissa that is rounded at the exponent `e` is at most half a step away. -/
theorem halfEven_unscale_bounds (num : Nat) {den : Nat} (hd : 0 < den) (e : Int) :
    (2 * (halfEven (unscale num den e).1 (unscale num den e).2 : ℚ) - 1) * 2 ^ e ≤
        2 * (num / den) ∧
      2 * (num / den : ℚ) ≤
        (2 * (halfEven (unscale num den e).1 (unscale num den e).2 : ℚ) + 1) * 2 ^ e := by
  have hpos := unscale_pos num hd e
  have hstep : (0 : ℚ) < 2 ^ e := zpow_pos (by norm_num) e
  have hratio : (num : ℚ) / den =
      (unscale num den e).1 / (unscale num den e).2 * 2 ^ e := by
    rw [unscale_eq, div_mul_cancel₀ _ hstep.ne']
  obtain ⟨hlow, hhigh⟩ := halfEven_near (unscale num den e).1 hpos
  rw [hratio, ← mul_assoc, mul_le_mul_iff_left₀ hstep, mul_le_mul_iff_left₀ hstep]
  exact ⟨hlow, hhigh⟩

/-- A mantissa `k` that is rounded at the exponent of its ratio has at most 53 bits or is the carry,
    and it has all bits unless the exponent is the lowest. -/
theorem mantissa_bounds {r : ℚ} {k : Nat} {e : Int} (hstep : (0 : ℚ) < 2 ^ e)
    (hbelow : r < 2 ^ (53 : Nat) * 2 ^ e) (hfull : (2 : ℚ) ^ (52 : Nat) * 2 ^ e ≤ r ∨ e = -1074)
    (hk : (2 * (k : ℚ) - 1) * 2 ^ e ≤ 2 * r ∧ 2 * r ≤ (2 * (k : ℚ) + 1) * 2 ^ e) :
    k ≤ 2 ^ 53 ∧ (2 ^ 52 ≤ k ∨ e = -1074) := by
  constructor
  · have hlt : (2 * k - 1 : ℚ) < 2 ^ 54 := by
      refine lt_of_mul_lt_mul_right ?_ hstep.le
      linarith [hk.1]
    have hlt' : (2 * k : ℚ) < 2 ^ 54 + 1 := by linarith
    have : 2 * k < 2 ^ 54 + 1 := by exact_mod_cast hlt'
    omega
  · refine hfull.imp_left fun hge => ?_
    have hle : (2 ^ 53 : ℚ) ≤ 2 * k + 1 := by
      refine le_of_mul_le_mul_right ?_ hstep
      linarith [hk.2]
    have : 2 ^ 53 ≤ 2 * k + 1 := by exact_mod_cast hle
    omega

/-- A magnitude `m` of at most 53 bits is finite if its exponent is in range and it has all bits or
    the lowest exponent. -/
theorem isFinite_ofMagnitude (s : Bool) {m : Nat} {e : Int} (hm : m < 2 ^ 53) (hlow : -1074 ≤ e)
    (hhigh : e ≤ 971) (hfull : 2 ^ 52 ≤ m ∨ e = -1074) : (ofMagnitude s m e).isFinite = true := by
  rw [ofMagnitude, dif_pos ⟨hm, hlow, hhigh, hfull⟩]
  rfl

/-- Rounding that filled 53 bits is carried, unless the exponent is the greatest, `971`. -/
theorem isFinite_ofMagnitude_full (s : Bool) {e : Int} (hlow : -1074 ≤ e) :
    (ofMagnitude s (2 ^ 53) e).isFinite = decide (e < 971) := by
  have hfull : ¬ IsCanonical (2 ^ 53) e := fun hc => absurd hc.1 (by decide)
  rw [ofMagnitude, dif_neg hfull]
  by_cases he : e < 971
  · have hcarried : IsCanonical (2 ^ 53 / 2) (e + 1) :=
      ⟨by decide, by omega, by omega, .inl (by decide)⟩
    rw [dif_pos hcarried, decide_eq_true he]
    rfl
  · have hcarried : ¬ IsCanonical (2 ^ 53 / 2) (e + 1) := fun hc => by
      have := hc.2.2.1
      omega
    rw [dif_neg hcarried, decide_eq_false he]
    rfl

/-- Beyond the greatest exponent nothing is finite, whatever the mantissa. -/
theorem not_isFinite_ofMagnitude (s : Bool) (m : Nat) {e : Int} (he : 971 < e) :
    (ofMagnitude s m e).isFinite = false := by
  have hsame : ¬ IsCanonical m e := fun hc => by
    have := hc.2.2.1
    omega
  have hcarried : ¬ IsCanonical (m / 2) (e + 1) := fun hc => by
    have := hc.2.2.1
    omega
  rw [ofMagnitude, dif_neg hsame, dif_neg hcarried]
  rfl

/-- **The ratios of finite values** are those below the tie above the greatest magnitude
    (`tooLarge`). -/
theorem isFinite_ofRatio_iff (s : Bool) (num : Nat) {den : Nat} (hd : 0 < den) :
    (ofRatio s num den).isFinite = true ↔ (num : ℚ) / den < tooLarge := by
  rcases Nat.eq_zero_or_pos num with rfl | hnum
  · have hpos : (0 : ℚ) < tooLarge := by
      unfold tooLarge
      positivity
    rw [ofRatio, if_pos rfl, Nat.cast_zero, zero_div]
    exact iff_of_true (isFinite_ofMagnitude s (by decide) le_rfl (by decide) (.inr rfl)) hpos
  obtain ⟨hlowest, hbelow, hfull⟩ := exponentFor_spec hnum hd
  have hdef : ofRatio s num den = ofMagnitude s
      (halfEven (unscale num den (exponentFor num den)).1 (unscale num den (exponentFor num den)).2)
      (exponentFor num den) := by
    rw [ofRatio, if_neg hnum.ne']
  have hbounds := halfEven_unscale_bounds num hd (exponentFor num den)
  rw [hdef, tooLarge]
  generalize exponentFor num den = e at *
  have hstep : (0 : ℚ) < 2 ^ e := zpow_pos (by norm_num) e
  have hunit : (0 : ℚ) < 2 ^ (970 : Int) := zpow_pos (by norm_num) _
  rcases lt_trichotomy e 971 with he | rfl | he
  · -- the carry, if there is one, is in range
    have hmono : (2 : ℚ) ^ e ≤ 2 ^ (970 : Int) := zpow_le_zpow_right₀ (by norm_num) (by omega)
    refine iff_of_true ?_ ?_
    · obtain ⟨hk, hk'⟩ := mantissa_bounds hstep hbelow hfull hbounds
      rcases hk.eq_or_lt with heq | hlt
      · rw [heq, isFinite_ofMagnitude_full s hlowest, decide_eq_true he]
      · exact isFinite_ofMagnitude s hlt hlowest he.le hk'
    · generalize (2 : ℚ) ^ (970 : Int) = u at *
      linarith
  · -- the greatest exponent: only a carry leaves the range, and the tie below it is rounded to it
    have htwice : (2 : ℚ) ^ (971 : Int) = 2 ^ (970 : Int) * 2 := zpow_add_one₀ (by norm_num) 970
    by_cases hlt : (num : ℚ) / den < (2 ^ 54 - 1) * 2 ^ (970 : Int)
    · refine iff_of_true ?_ hlt
      obtain ⟨hk, hk'⟩ := mantissa_bounds hstep hbelow hfull hbounds
      refine isFinite_ofMagnitude s (lt_of_le_of_ne hk fun heq => ?_) (by decide) le_rfl hk'
      have hlow := hbounds.1
      rw [heq, htwice] at hlow
      generalize (2 : ℚ) ^ (970 : Int) = u at *
      push_cast at hlow
      linarith
    · refine iff_of_false ?_ hlt
      have hround : halfEven (unscale num den 971).1 (unscale num den 971).2 = 2 ^ 53 := by
        rw [htwice] at hbelow
        refine halfEven_unscale hd ?_ ?_
        · rw [if_pos (by norm_num), htwice]
          generalize (2 : ℚ) ^ (970 : Int) = u at *
          push_cast
          linarith only [hlt]
        · rw [if_pos (by norm_num), htwice]
          generalize (2 : ℚ) ^ (970 : Int) = u at *
          push_cast
          linarith only [hbelow, hunit]
      rw [hround, isFinite_ofMagnitude_full s (by decide)]
      decide
  · -- beyond it the ratio fills the mantissa, so it is above the limit however it is rounded
    rw [not_isFinite_ofMagnitude s _ he]
    refine iff_of_false (by decide) (not_lt.2 ?_)
    have hge := hfull.resolve_right (by omega)
    have hmono : (2 : ℚ) ^ (970 : Int) * 2 * 2 ≤ 2 ^ e := by
      rw [← zpow_add_one₀ (by norm_num), ← zpow_add_one₀ (by norm_num)]
      exact zpow_le_zpow_right₀ (by norm_num) (by omega)
    generalize (2 : ℚ) ^ (970 : Int) = u at *
    linarith

/-- **A quotient exists exactly if it is not `tooLarge`.** -/
theorem isSome_quotient?_iff (n : Int) {d : Nat} (hd : 0 < d) :
    (quotient? n d).isSome = true ↔ (n.natAbs : ℚ) / d < tooLarge := by
  rw [← isFinite_ofRatio_iff (decide (n < 0)) n.natAbs hd, quotient?, finite?]
  split <;> simp [*]

/-- A quotient is finite if that of a greater number `n'` is. -/
theorem exists_quotient?_of_le {n n' : Int} {d : Nat} (hd : 0 < d) (hn : 0 ≤ n) (hle : n ≤ n')
    {x : Binary64} (h : quotient? n' d = some x) : ∃ y, quotient? n d = some y := by
  have hlarge := (isSome_quotient?_iff n' hd).1 (by rw [h, Option.isSome_some])
  refine Option.isSome_iff_exists.1 ((isSome_quotient?_iff n hd).2 (lt_of_le_of_lt ?_ hlarge))
  have habs : (n.natAbs : ℚ) ≤ n'.natAbs := by
    have : n.natAbs ≤ n'.natAbs := by omega
    exact_mod_cast this
  exact div_le_div_of_nonneg_right habs (Nat.cast_nonneg d)

end PrinterConsole.Number.Binary64
