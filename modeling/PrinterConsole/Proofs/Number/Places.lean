/-
  Numbers that are written with a fixed number of decimal places.

  A finite value is rounded once, to the nearest multiple of its last place, and of two that are
  as near to the even one (`RoundsTo`, which is a statement about exact rationals).  What is
  written are the digits of that multiple, with a point in front of the last ones and zeros where
  the fraction is short (`fixedDigits`).

  Main statements: which multiple is written (`exists_fixedText_eq`), and how
  (`exists_fixedDigits_eq`).
-/
import PrinterConsole.Number.Printed
import PrinterConsole.Proofs.Number.Digits
import PrinterConsole.Proofs.Number.Nearest

namespace PrinterConsole.Number

open PrinterConsole.Text

/-! ## Rounding -/

/-- `k` is the natural nearest to `q`; of two that are as near it is the even one. -/
def RoundsTo (q : ℚ) (k : Nat) : Prop := |q - k| ≤ 1 / 2 ∧ (|q - k| = 1 / 2 → k % 2 = 0)

/-- A lesser number has a lesser natural: `RoundsTo` keeps the order. -/
theorem RoundsTo.mono {q q' : ℚ} {k k' : Nat} (h : RoundsTo q k) (h' : RoundsTo q' k')
    (hq : q ≤ q') : k ≤ k' := by
  obtain ⟨hlow, hhigh⟩ := abs_le.1 h.1
  obtain ⟨hlow', hhigh'⟩ := abs_le.1 h'.1
  by_contra hlt
  rw [not_le] at hlt
  have hlt' : (k' : ℚ) + 1 ≤ k := by exact_mod_cast hlt
  -- both are half a unit away, so both are even, and they are neighbours
  have hk : q - k = -(1 / 2) := by linarith
  have hk' : q' - k' = 1 / 2 := by linarith
  have heven := h.2 (by rw [hk]; norm_num)
  have heven' := h'.2 (by rw [hk']; norm_num)
  have hnext : (k : ℚ) = k' + 1 := by linarith
  have hnext' : k = k' + 1 := by exact_mod_cast hnext
  omega

/-- There is one such natural, by `RoundsTo.mono` in both directions. -/
theorem RoundsTo.unique {q : ℚ} {k k' : Nat} (h : RoundsTo q k) (h' : RoundsTo q k') : k = k' :=
  le_antisymm (h.mono h' le_rfl) (h'.mono h le_rfl)

/-- A half is rounded to an even natural by `halfEven`. -/
theorem even_halfEven_of_tie {n d : Nat} (hd : 0 < d)
    (h : 2 * n = 2 * (halfEven n d * d) + d ∨ 2 * n + d = 2 * (halfEven n d * d)) :
    halfEven n d % 2 = 0 := by
  have hn := Nat.div_add_mod n d
  have hr := Nat.mod_lt n hd
  have hs : (n / d + 1) * d = n / d * d + d := Nat.succ_mul _ _
  rw [Nat.mul_comm] at hn
  unfold halfEven at h ⊢
  dsimp only at h ⊢
  -- below or above the middle there is no half
  split at h
  · omega
  · split at h
    · rw [hs] at h
      omega
    · rw [if_neg (by assumption), if_neg (by assumption)]
      split <;> omega

/-- What `halfEven` gives is the natural that the ratio `RoundsTo`. -/
theorem roundsTo_halfEven (n : Nat) {d : Nat} (hd : 0 < d) : RoundsTo (n / d) (halfEven n d) := by
  have hd' : (d : ℚ) ≠ 0 := by exact_mod_cast hd.ne'
  obtain ⟨hlow, hhigh⟩ := halfEven_near n hd
  constructor
  · rw [abs_le]
    constructor <;> linarith
  · intro htie
    refine even_halfEven_of_tie hd ?_
    rcases eq_or_eq_neg_of_abs_eq htie with habove | hbelow
    · left
      have heq : (2 * n : ℚ) = 2 * (halfEven n d * d) + d := by
        field_simp at habove
        linarith
      exact_mod_cast heq
    · right
      have heq : (2 * n + d : ℚ) = 2 * (halfEven n d * d) := by
        field_simp at hbelow
        linarith
      exact_mod_cast heq

namespace Binary64

/-- The exact value of a finite number; `none` of the others. -/
def exactValue? : Binary64 → Option ℚ
  | finite negative m e _ => some (if negative then -(m * 2 ^ e) else m * 2 ^ e)
  | _ => none

/-- The multiple of the last place that the magnitude `m * 2 ^ e` is rounded to. -/
def placesOf (places m : Nat) (e : Int) : Nat :=
  halfEven ((ratio m e).1 * Nat.pow 10 places) (ratio m e).2

/-- That multiple is the one that the scaled magnitude `RoundsTo`. -/
theorem roundsTo_placesOf (places m : Nat) (e : Int) :
    RoundsTo (m * 2 ^ e * 10 ^ places) (placesOf places m e) := by
  have hscaled : (m : ℚ) * 2 ^ e * 10 ^ places =
      (((ratio m e).1 * Nat.pow 10 places : Nat) : ℚ) / (ratio m e).2 := by
    rw [← ratio_eq, Nat.pow_eq, Nat.cast_mul, Nat.cast_pow, Nat.cast_ofNat]
    ring
  rw [hscaled]
  exact roundsTo_halfEven _ (ratio_pos m e)

/-- **A positive value is written as its nearest multiple of the last place**: `fixedText` writes
    the digits of the `k` that the value `RoundsTo`. -/
theorem exists_fixedText_eq {x : Binary64} {q : ℚ} (hx : x.exactValue? = some q) (hq : 0 < q)
    (places : Nat) : ∃ k, x.fixedText places = fixedDigits places k ∧ RoundsTo (q * 10 ^ places) k := by
  rcases x with ⟨negative, m, e, hcanonical⟩ | s | -
  case infinite => cases hx
  case nan => cases hx
  case finite =>
    have hvalue : (if negative then -(m * 2 ^ e) else m * 2 ^ e : ℚ) = q := Option.some.inj hx
    have hmagnitude : (0 : ℚ) ≤ m * 2 ^ e :=
      mul_nonneg (Nat.cast_nonneg m) (zpow_pos (by norm_num) e).le
    have hpositive : negative = false := by
      cases negative with
      | false => rfl
      | true =>
        rw [if_pos rfl] at hvalue
        linarith
    subst hpositive
    rw [if_neg Bool.false_ne_true] at hvalue
    refine ⟨placesOf places m e, String.empty_append, ?_⟩
    rw [← hvalue]
    exact roundsTo_placesOf places m e

/-- **How a multiple of the last place is written** by `fixedDigits`: its whole part, a point, and a
    fraction of all the places. -/
theorem exists_fixedDigits_eq {places : Nat} (hplaces : 0 < places) (n : Nat) :
    ∃ fraction, (fixedDigits places n).toList =
        Nat.toDigits 10 (n / 10 ^ places) ++ '.' :: fraction ∧
      (∀ c ∈ fraction, isAsciiDigit c = true) ∧
      Nat.ofDigitChars 10 fraction 0 = n % 10 ^ places ∧ fraction.length = places := by
  let ds := Nat.toDigits 10 (n % 10 ^ places)
  have hshort : ds.length ≤ places :=
    (Nat.length_toDigits_le_iff (by decide) hplaces).2 (Nat.mod_lt n (Nat.pow_pos (by decide)))
  refine ⟨List.replicate (places - ds.length) '0' ++ ds, ?_, ?_, ?_, ?_⟩
  · have hpoint : ".".toList = ['.'] := rfl
    unfold fixedDigits
    rw [String.toList_append, String.toList_append, hpoint, List.append_assoc,
      List.singleton_append]
    unfold natText
    rw [String.toList_ofList, String.toList_ofList]
    rfl
  · intro c hc
    rcases List.mem_append.1 hc with hzero | hdigit
    · rw [List.eq_of_mem_replicate hzero]
      decide
    · exact isAsciiDigit_of_mem_toDigits hdigit
  · rw [Nat.ofDigitChars_append, Nat.ofDigitChars_replicate_zero, Nat.mul_zero]
    exact Nat.ofDigitChars_ten_toDigits
  · rw [List.length_append, List.length_replicate]
    omega

end Binary64

end PrinterConsole.Number
