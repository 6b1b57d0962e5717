/-
  Rounding a ratio of naturals to the nearest natural, a half to the even neighbour.

  This is the one rounding rule of the library: binary floating point, decimal places and
  significant digits all round by it.  `halfEven` goes by the quotient and the remainder, and
  compares twice the remainder with the denominator, so nothing is lost before the choice is made.

  Main statements: the result is within half a unit of the ratio (`halfEven_bounds`), and a whole
  ratio is kept (`halfEven_mul`).
-/

namespace PrinterConsole.Number

/-- `n / d` rounded to the nearest natural, a half going to the even one. -/
def halfEven (n d : Nat) : Nat :=
  let q := n / d
  let r := n % d
  if 2 * r < d then q
  else if d < 2 * r then q + 1
  else if q % 2 = 0 then q else q + 1

/-- The rounded ratio is at most half a unit below or above the ratio, stated without division:
    twice the numerator lies within one denominator of twice `halfEven n d * d`. -/
theorem halfEven_bounds (n : Nat) {d : Nat} (h : 0 < d) :
    2 * n ≤ 2 * (halfEven n d * d) + d ∧ 2 * (halfEven n d * d) ≤ 2 * n + d := by
  have hn := Nat.div_add_mod n d
  have hr := Nat.mod_lt n h
  have hs : (n / d + 1) * d = n / d * d + d := Nat.succ_mul _ _
  rw [Nat.mul_comm] at hn
  unfold halfEven
  dsimp only
  split
  · omega
  · split
    · rw [hs]; omega
    · split
      · omega
      · rw [hs]; omega

/-- A whole ratio is its own rounding (`halfEven`). -/
theorem halfEven_mul (q d : Nat) (h : 0 < d) : halfEven (q * d) d = q := by
  unfold halfEven
  simp [Nat.mul_div_cancel _ h, Nat.mul_mod_left, h]

end PrinterConsole.Number
