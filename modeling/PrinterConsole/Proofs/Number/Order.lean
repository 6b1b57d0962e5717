/-
  The order of values, and that rounding keeps it.

  A lesser ratio has no greater exponent (`exponentFor_mono`).  At one exponent the order of the
  mantissas is the order of the naturals that the scaled ratios are rounded to (`RoundsTo.mono`);
  and with a greater exponent the mantissa has all its bits, so it is not below what the lesser
  exponent can hold.

  Values are compared as the exact numbers that they are (`IsMagnitude` for those without a minus
  sign, `AtMost` for any two).

  Main statements: a lesser ratio has a lesser value (`ofRatio_mono`), and rounding a value to
  decimal places leaves it finite (`exists_roundPlaces`) and keeps the order (`roundPlaces_mono`).
-/
import PrinterConsole.Proofs.Number.Places
import PrinterConsole.Proofs.Number.Significant

namespace PrinterConsole.Number.Binary64

/-! ## The order of finite values

  Finite floats are compared as rationals (`AtMost`); those that are not finite are not compared. -/

/-- Both are finite, and `x` is not the greater one. -/
def AtMost (x y : Binary64) : Prop :=
  ∃ p q, x.exactValue? = some p ∧ y.exactValue? = some q ∧ p ≤ q

theorem AtMost.trans {x y z : Binary64} (h : x.AtMost y) (h' : y.AtMost z) : x.AtMost z := by
  obtain ⟨p, q, hp, hq, hle⟩ := h
  obtain ⟨q', r, hq', hr, hle'⟩ := h'
  obtain rfl : q = q' := Option.some.inj (hq.symm.trans hq')
  exact ⟨p, r, hp, hr, hle.trans hle'⟩

/-- The value `x` is the number `q`, and has no minus sign. -/
def IsMagnitude (x : Binary64) (q : ℚ) : Prop :=
  ∃ m e h, x = finite false m e h ∧ q = m * 2 ^ e

theorem IsMagnitude.exactValue? {x : Binary64} {q : ℚ} (h : x.IsMagnitude q) :
    x.exactValue? = some q := by
  obtain ⟨m, e, h, rfl, rfl⟩ := h
  rfl

theorem IsMagnitude.unique {x : Binary64} {p q : ℚ} (hp : x.IsMagnitude p)
    (hq : x.IsMagnitude q) : p = q :=
  Option.some.inj (hp.exactValue?.symm.trans hq.exactValue?)

theorem IsMagnitude.atMost {x y : Binary64} {p q : ℚ} (hp : x.IsMagnitude p)
    (hq : y.IsMagnitude q) (hle : p ≤ q) : x.AtMost y :=
  ⟨p, q, hp.exactValue?, hq.exactValue?, hle⟩

/-! ## Ratios

  The greater of two ratios has no smaller exponent, and at the same exponent no smaller mantissa,
  so rounding keeps their order. -/

theorem isMagnitude_ofRatio_zero (den : Nat) : (ofRatio false 0 den).IsMagnitude 0 := by
  have hzero : IsCanonical 0 (-1074) := ⟨by decide, le_rfl, by decide, .inr rfl⟩
  refine ⟨0, -1074, hzero, ?_, by simp⟩
  rw [ofRatio, if_pos rfl, ofMagnitude, dif_pos hzero]

/-- A ratio below `tooLarge` has a value. -/
theorem exists_isMagnitude_ofRatio {num den : Nat} (hd : 0 < den)
    (h : (num : ℚ) / den < tooLarge) : ∃ q, (ofRatio false num den).IsMagnitude q := by
  have hfinite := (isFinite_ofRatio_iff false num hd).2 h
  rcases Nat.eq_zero_or_pos num with rfl | hn
  · exact ⟨0, isMagnitude_ofRatio_zero den⟩
  · cases hvalue : ofRatio false num den with
    | finite t m e hcanonical =>
      obtain ⟨rfl, -⟩ := ofRatio_value hn hd hvalue
      exact ⟨_, m, e, hcanonical, rfl, rfl⟩
    | infinite | nan =>
      rw [hvalue] at hfinite
      cases hfinite

/-- The value of a ratio, at the exponent of the ratio (`exponentFor`): a mantissa `k` of at most 53
    bits, or the carry. -/
theorem isMagnitude_ofRatio {num den : Nat} {q : ℚ} (hn : 0 < num) (hd : 0 < den)
    (h : (ofRatio false num den).IsMagnitude q) :
    ∃ k : Nat, q = k * 2 ^ exponentFor num den ∧
      RoundsTo (num / den / 2 ^ exponentFor num den) k ∧
      k ≤ 2 ^ 53 ∧ (2 ^ 52 ≤ k ∨ exponentFor num den = -1074) := by
  obtain ⟨m, e, hcanonical, hvalue, rfl⟩ := h
  obtain ⟨-, hbelow, hfull⟩ := exponentFor_spec hn hd
  have hbounds := halfEven_unscale_bounds num hd (exponentFor num den)
  have hround := roundsTo_halfEven (unscale num den (exponentFor num den)).1
    (unscale_pos num hd (exponentFor num den))
  rw [unscale_eq] at hround
  exact ⟨_, (ofRatio_value hn hd hvalue).2, hround,
    mantissa_bounds (zpow_pos (by norm_num) _) hbelow hfull hbounds⟩

/-- A lesser ratio has no greater exponent (`exponentFor`). -/
theorem exponentFor_mono {a b c d : Nat} (ha : 0 < a) (hb : 0 < b) (hc : 0 < c) (hd : 0 < d)
    (hle : (a : ℚ) / b ≤ c / d) : exponentFor a b ≤ exponentFor c d := by
  obtain ⟨-, -, hfull⟩ := exponentFor_spec ha hb
  obtain ⟨hlowest, hbelow, -⟩ := exponentFor_spec hc hd
  rcases hfull with hge | hlow
  · have hlt : (2 : ℚ) ^ exponentFor a b < 2 ^ (exponentFor c d + 1) := by
      rw [zpow_add_one₀ (by norm_num)]
      linarith
    have := (zpow_lt_zpow_iff_right₀ (by norm_num)).1 hlt
    omega
  · exact hlow.trans_le hlowest

/-- **A lesser ratio has a lesser value**: `ofRatio` is monotone. -/
theorem ofRatio_mono {a b c d : Nat} (hb : 0 < b) (hd : 0 < d) (hle : (a : ℚ) / b ≤ c / d)
    {p q : ℚ} (hp : (ofRatio false a b).IsMagnitude p) (hq : (ofRatio false c d).IsMagnitude q) :
    p ≤ q := by
  rcases Nat.eq_zero_or_pos a with rfl | ha
  · obtain rfl := hp.unique (isMagnitude_ofRatio_zero b)
    obtain ⟨m, e, -, -, rfl⟩ := hq
    exact mul_nonneg (Nat.cast_nonneg m) (zpow_pos (by norm_num) e).le
  have hpositive : (0 : ℚ) < a / b := div_pos (Nat.cast_pos.2 ha) (Nat.cast_pos.2 hb)
  have hc : 0 < c := by
    rw [Nat.pos_iff_ne_zero]
    rintro rfl
    rw [Nat.cast_zero, zero_div] at hle
    linarith
  have hexponent := exponentFor_mono ha hb hc hd hle
  obtain ⟨k, rfl, hk, hkmax, -⟩ := isMagnitude_ofRatio ha hb hp
  obtain ⟨k', rfl, hk', -, hkfull⟩ := isMagnitude_ofRatio hc hd hq
  have hlowest := (exponentFor_spec ha hb).1
  generalize exponentFor a b = f at *
  generalize exponentFor c d = f' at *
  have hstep : (0 : ℚ) < 2 ^ f := zpow_pos (by norm_num) f
  rcases hexponent.eq_or_lt with rfl | hlt
  · have hkk := hk.mono hk' (div_le_div_of_nonneg_right hle hstep.le)
    exact mul_le_mul_of_nonneg_right (by exact_mod_cast hkk) hstep.le
  · -- the mantissa at the greater exponent has all its bits
    have hfull : (2 ^ 52 : ℚ) ≤ k' := by exact_mod_cast hkfull.resolve_right (by omega)
    have hmax : (k : ℚ) ≤ 2 ^ 53 := by exact_mod_cast hkmax
    have hnext : (2 : ℚ) ^ (f + 1) ≤ 2 ^ f' := zpow_le_zpow_right₀ (by norm_num) (by omega)
    calc (k : ℚ) * 2 ^ f ≤ 2 ^ 53 * 2 ^ f := mul_le_mul_of_nonneg_right hmax hstep.le
      _ = 2 ^ 52 * 2 ^ (f + 1) := by
        rw [zpow_add_one₀ (by norm_num)]
        ring
      _ ≤ k' * 2 ^ f' := mul_le_mul hfull hnext (zpow_pos (by norm_num) _).le (Nat.cast_nonneg k')

/-- A lesser quotient has a lesser value, for one divisor `d`. -/
theorem quotient?_mono {n n' : Int} {d : Nat} (hd : 0 < d) (hn : 0 ≤ n) (hle : n ≤ n')
    {x y : Binary64} (hx : quotient? n d = some x) (hy : quotient? n' d = some y) :
    ∃ p q, x.IsMagnitude p ∧ y.IsMagnitude q ∧ p ≤ q := by
  have hvalue : ∀ {i : Int} {z : Binary64}, 0 ≤ i → quotient? i d = some z →
      z = ofRatio false i.natAbs d ∧ ∃ r, (ofRatio false i.natAbs d).IsMagnitude r := by
    intro i z hi hz
    have hlarge := (isSome_quotient?_iff i hd).1 (by rw [hz, Option.isSome_some])
    refine ⟨?_, exists_isMagnitude_ofRatio hd hlarge⟩
    rw [quotient?, decide_eq_false (by omega), finite?] at hz
    split at hz
    · exact (Option.some.inj hz).symm
    · cases hz
  obtain ⟨rfl, p, hp⟩ := hvalue hn hx
  obtain ⟨rfl, q, hq⟩ := hvalue (hn.trans hle) hy
  refine ⟨p, q, hp, hq, ofRatio_mono hd hd ?_ hp hq⟩
  have hcast : (n.natAbs : ℚ) ≤ n'.natAbs := by
    have : n.natAbs ≤ n'.natAbs := by omega
    exact_mod_cast this
  exact div_le_div_of_nonneg_right hcast (Nat.cast_nonneg d)

/-! ## Decimal places

  Rounding to decimal places goes by a ratio as well.  The only thing that could fail is a result
  that is no longer finite, and there is none. -/

theorem roundPlaces_finite (places : Nat) (s : Bool) {m : Nat} {e : Int} (h : IsCanonical m e) :
    (finite s m e h).roundPlaces places = ofRatio s (placesOf places m e) (10 ^ places) := rfl

/-- Rounding to decimal places (`placesOf`) does not make a magnitude too large: a large one is a
    whole number, and stays as it is. -/
theorem placesOf_lt_tooLarge (places : Nat) {m : Nat} {e : Int} (h : IsCanonical m e) :
    (placesOf places m e : ℚ) / 10 ^ places < tooLarge := by
  have hpow : (0 : ℚ) < 10 ^ places := pow_pos (by norm_num) places
  rw [div_lt_iff₀ hpow]
  by_cases he : 0 ≤ e
  · -- a whole number needs no rounding, and a finite one is below the limit
    have hwhole : placesOf places m e = (ratio m e).1 * 10 ^ places := by
      have hone : (ratio m e).2 = 1 := by rw [ratio, if_pos he]
      have hround := halfEven_mul ((ratio m e).1 * 10 ^ places) 1 Nat.one_pos
      rw [Nat.mul_one] at hround
      rw [placesOf, hone, Nat.pow_eq, hround]
    have hratio : ((ratio m e).1 : ℚ) = m * 2 ^ e := by
      rw [← ratio_eq, ratio, if_pos he, Nat.cast_one, div_one]
    rw [hwhole, Nat.cast_mul, Nat.cast_pow, Nat.cast_ofNat, hratio]
    exact mul_lt_mul_of_pos_right (finite_lt_tooLarge h) hpow
  · -- a number with a fraction is far below the limit, so the rounding cannot reach it
    have hm : (m : ℚ) ≤ 2 ^ 53 := by exact_mod_cast h.1.le
    have hstep : (2 : ℚ) ^ e ≤ 1 := zpow_le_one_of_nonpos₀ (by norm_num) (by omega)
    have hsmall : (m : ℚ) * 2 ^ e ≤ 2 ^ 53 := by
      calc (m : ℚ) * 2 ^ e ≤ 2 ^ 53 * 1 :=
            mul_le_mul hm hstep (zpow_pos (by norm_num) e).le (by norm_num)
        _ = 2 ^ 53 := mul_one _
    have hone : (1 : ℚ) ≤ 10 ^ places := one_le_pow₀ (by norm_num)
    have hlarge : (2 ^ 53 + 1 : ℚ) < tooLarge := by
      have hdigits : (2 ^ 53 + 1 : ℚ) < 10 ^ (16 : Int) := by norm_num
      have hten : (10 : ℚ) ^ (16 : Int) ≤ 10 ^ (308 : Int) :=
        zpow_le_zpow_right₀ (by norm_num) (by norm_num)
      exact (hdigits.trans_le hten).trans tooLarge_bounds.1
    have hround := (abs_le.1 (roundsTo_placesOf places m e).1).1
    calc (placesOf places m e : ℚ) ≤ m * 2 ^ e * 10 ^ places + 1 := by linarith
      _ ≤ 2 ^ 53 * 10 ^ places + 10 ^ places :=
        add_le_add (mul_le_mul_of_nonneg_right hsmall hpow.le) hone
      _ = (2 ^ 53 + 1) * 10 ^ places := by ring
      _ < tooLarge * 10 ^ places := mul_lt_mul_of_pos_right hlarge hpow

/-- **A value that is rounded to decimal places stays finite**, since it does not become
    `tooLarge`. -/
theorem exists_roundPlaces {x : Binary64} {q : ℚ} (hx : x.IsMagnitude q) (places : Nat) :
    ∃ p, (x.roundPlaces places).IsMagnitude p := by
  obtain ⟨m, e, hcanonical, rfl, rfl⟩ := hx
  rw [roundPlaces_finite]
  refine exists_isMagnitude_ofRatio (Nat.pow_pos (by decide)) ?_
  rw [Nat.cast_pow, Nat.cast_ofNat]
  exact placesOf_lt_tooLarge places hcanonical

/-- **Rounding to decimal places keeps the order** (`AtMost`). -/
theorem roundPlaces_mono {x y : Binary64} {p q : ℚ} (hx : x.IsMagnitude p) (hy : y.IsMagnitude q)
    (hle : p ≤ q) (places : Nat) : (x.roundPlaces places).AtMost (y.roundPlaces places) := by
  obtain ⟨p', hp'⟩ := exists_roundPlaces hx places
  obtain ⟨q', hq'⟩ := exists_roundPlaces hy places
  refine hp'.atMost hq' ?_
  obtain ⟨m, e, hm, rfl, rfl⟩ := hx
  obtain ⟨n, f, hn, rfl, rfl⟩ := hy
  rw [roundPlaces_finite] at hp' hq'
  have hpow : 0 < 10 ^ places := Nat.pow_pos (by decide)
  have hrounded : placesOf places m e ≤ placesOf places n f :=
    (roundsTo_placesOf places m e).mono (roundsTo_placesOf places n f)
      (mul_le_mul_of_nonneg_right hle (by positivity))
  refine ofRatio_mono hpow hpow ?_ hp' hq'
  exact div_le_div_of_nonneg_right (by exact_mod_cast hrounded) (Nat.cast_nonneg _)

end PrinterConsole.Number.Binary64
