/-
  The darkness steps on the print defaults page.

  A printer with two or more steps divides the way from 0 to 100 percent into one part less than
  it has steps.  Every step is a fraction of the whole way, rounded down on its own; nothing is
  added up, so what is lost in one step is not lost in the next, and the last step is 100.  From
  one step to the next the percents grow by the hundredth part of the way rounded down or up
  (`isEvenStep_mul_div`).  They can stand still only if there are more parts than percents, and
  then they have to (`nodup_darknessPercents_iff`).

  The arithmetic is that of multiples rounded down, `whole * k / parts`, and stands in front; the
  rest reads it off `darknessPercents`, one property of the list at a time.

  Main statement: `darkness_steps_even`.
-/
import Mathlib.Data.List.Range
import Mathlib.Data.Rat.Floor
import PrinterConsole.Control.Defaults
import PrinterConsole.Driver.Profile
import PrinterConsole.Proofs.Number.Whole

namespace PrinterConsole.DriverOptions

open PrinterConsole.Number

/-! ## A way in equal parts

  The percents are a way of 100 in equal parts, rounded down at each end of a part; neighbours
  differ by the quotient, or by one more. -/

/-- One more part adds the quotient of the whole, rounded down or, if the parts do not come out
    even, up. -/
theorem succ_mul_div (whole k : Nat) {parts : Nat} (hparts : 0 < parts) :
    whole * (k + 1) / parts = whole * k / parts + whole / parts ∨
      ¬ parts ∣ whole ∧ whole * (k + 1) / parts = whole * k / parts + (whole / parts + 1) := by
  rw [Nat.mul_succ, Nat.add_div hparts]
  split
  · rename_i hcarry
    right
    refine ⟨fun hdvd => ?_, Nat.add_assoc _ _ _⟩
    -- a part without a remainder carries nothing over
    have hrest : whole * k % parts < parts := Nat.mod_lt _ hparts
    rw [Nat.mod_eq_zero_of_dvd hdvd] at hcarry
    omega
  · exact .inl rfl

/-- Multiples of a part that is at least one are told apart by rounding down: consecutive ones
    differ by one at least. -/
theorem mul_div_lt_mul_div {whole parts : Nat} (hparts : 0 < parts) (hle : parts ≤ whole)
    {k l : Nat} (h : k < l) : whole * k / parts < whole * l / parts := by
  calc whole * k / parts < whole * k / parts + 1 := Nat.lt_succ_self _
    _ = (whole * k + parts) / parts := (Nat.add_div_right _ hparts).symm
    _ ≤ whole * l / parts := Nat.div_le_div_right ?_
  calc whole * k + parts ≤ whole * k + whole := Nat.add_le_add_left hle _
    _ = whole * (k + 1) := (Nat.mul_succ _ _).symm
    _ ≤ whole * l := Nat.mul_le_mul_left _ h

/-! ## The percents

  Where the parts are at least one percent long, no two steps have the same percent; where they are
  shorter, some have. -/

/-- From two steps on `darknessPercents` are the multiples of the part, without the case of a single
    step. -/
theorem darknessPercents_of_two_le {n : Nat} (hn : 2 ≤ n) :
    darknessPercents n = (List.range n).map fun step => 100 * step / (n - 1) := by
  rw [darknessPercents, if_neg (by omega)]

theorem length_darknessPercents {n : Nat} (hn : 2 ≤ n) : (darknessPercents n).length = n := by
  rw [darknessPercents_of_two_le hn, List.length_map, List.length_range]

theorem head?_darknessPercents {n : Nat} (hn : 2 ≤ n) :
    (darknessPercents n).head? = some 0 := by
  rw [darknessPercents_of_two_le hn, List.head?_map, List.head?_range, if_neg (by omega)]
  simp

/-- The last of `darknessPercents` is 100, exactly: the multiple of the part by the number of parts
    is the whole way. -/
theorem getLast?_darknessPercents {n : Nat} (hn : 2 ≤ n) :
    (darknessPercents n).getLast? = some 100 := by
  rw [darknessPercents_of_two_le hn, List.getLast?_map, List.getLast?_range, if_neg (by omega),
    Option.map_some, Nat.mul_div_cancel _ (by omega)]

/-- `darknessPercents` do not decrease, since rounding down is monotone. -/
theorem pairwise_darknessPercents {n : Nat} (hn : 2 ≤ n) :
    (darknessPercents n).Pairwise (· ≤ ·) := by
  rw [darknessPercents_of_two_le hn, List.pairwise_map]
  exact List.pairwise_lt_range.imp fun h =>
    Nat.div_le_div_right (Nat.mul_le_mul_left _ (Nat.le_of_lt h))

/-- From the percent `low` to the next, `high`, it is the hundredth part of the way, rounded down or
    up; stated with rationals, so that it does not depend on how the percents are computed. -/
def IsEvenStep (parts : ℚ) (low high : Nat) : Prop :=
  (high : ℤ) - low = ⌊100 / parts⌋ ∨ (high : ℤ) - low = ⌈100 / parts⌉

/-- Consecutive multiples of the part make an even step: `succ_mul_div` in terms of floor and
    ceiling. -/
theorem isEvenStep_mul_div (k : Nat) {parts : Nat} (hparts : 0 < parts) :
    IsEvenStep parts (100 * k / parts) (100 * (k + 1) / parts) := by
  have hfloor : ⌊(100 : ℚ) / parts⌋ = 100 / (parts : ℤ) := Rat.floor_intCast_div_natCast 100 parts
  rcases succ_mul_div 100 k hparts with h | ⟨hrest, h⟩
  · left
    rw [hfloor, h]
    push_cast
    exact add_sub_cancel_left _ _
  · right
    have hnot : ¬ (parts : ℤ) ∣ 100 := mod_cast hrest
    have hceil : ⌈(100 : ℚ) / parts⌉ = 100 / (parts : ℤ) + 1 := by
      have hup : ⌈(100 : ℚ) / parts⌉ = -(-100 / (parts : ℤ)) :=
        Rat.ceil_intCast_div_natCast 100 parts
      rw [hup, Int.neg_ediv, if_neg hnot, Int.sign_eq_one_of_pos (mod_cast hparts)]
      omega
    rw [hceil, h]
    push_cast
    exact add_sub_cancel_left _ _

/-- All neighbours in the list make even steps (`IsEvenStep`). -/
theorem isChain_darknessPercents {n : Nat} (hn : 2 ≤ n) :
    (darknessPercents n).IsChain (IsEvenStep (n - 1)) := by
  rw [darknessPercents_of_two_le hn, List.isChain_map, List.isChain_range]
  intro k _
  have hparts : ((n - 1 : Nat) : ℚ) = n - 1 := by
    rw [Nat.cast_sub (by omega), Nat.cast_one]
  rw [← hparts]
  exact isEvenStep_mul_div k (by omega)

/-- The percents are different exactly if there are at most 101.  More than 101 steps have no more
    than 101 percents to go to; with fewer the part is at least one (`mul_div_lt_mul_div`). -/
theorem nodup_darknessPercents_iff {n : Nat} (hn : 2 ≤ n) :
    (darknessPercents n).Nodup ↔ n ≤ 101 := by
  constructor
  · -- the percents are among the 101 numbers up to the last one
    intro hnodup
    have hsub : darknessPercents n ⊆ List.range 101 := by
      rw [darknessPercents_of_two_le hn]
      intro percent hmem
      obtain ⟨step, hstep, rfl⟩ := List.mem_map.1 hmem
      rw [List.mem_range] at hstep ⊢
      have hle : 100 * step / (n - 1) ≤ 100 :=
        Nat.div_le_of_le_mul ((Nat.mul_comm _ _).le.trans
          (Nat.mul_le_mul_right _ (Nat.le_sub_one_of_lt hstep)))
      exact Nat.lt_succ_of_le hle
    have hlength := (hnodup.subperm hsub).length_le
    rwa [length_darknessPercents hn, List.length_range] at hlength
  · intro hle
    rw [darknessPercents_of_two_le hn]
    have hlt : (List.range n).Pairwise fun k l => 100 * k / (n - 1) < 100 * l / (n - 1) :=
      List.pairwise_lt_range.imp fun h => mul_div_lt_mul_div (by omega) (by omega) h
    exact (List.pairwise_map.2 hlt).imp Nat.ne_of_lt

/-! ## The choices -/

theorem values_darknessChoices (o : DriverOptions) :
    o.darknessChoices.map (·.value) =
      (darknessPercents o.darknessSupported.toNat).map fun p => .string (natText p) := by
  rw [darknessChoices, List.map_map]
  rfl

/-- Percents are told apart by their texts (`natText`), so the choices are different where the
    percents are. -/
theorem string_natText_injective : Function.Injective fun p : Nat => Json.string (natText p) := by
  intro p q h
  exact natText_inj.1 (Json.string.inj h)

/-- **The darkness steps cover 0 to 100 percent evenly.**  For every printer with `n` steps, two or
    more, there are exactly `n` choices.  Their percents do not decrease, neighbours differ by
    `100 / (n - 1)` rounded down or up, the first value is `0` and the last is `100`, and the values
    are different exactly if there are at most 101.  A choice is selected exactly if its percent is
    the darkness that is set. -/
theorem darkness_steps_even {o : DriverOptions} (hn : 2 ≤ o.darknessSupported) :
    ∃ percents : List Nat,
      o.darknessChoices.map (·.value) = percents.map (fun p => .string (natText p)) ∧
      o.darknessChoices.map (·.label) = percents.map (fun p => natText p ++ "%") ∧
      o.darknessChoices.map (·.selected) =
        percents.map (fun (p : Nat) => decide ((p : ℤ) = o.darknessConfigured)) ∧
      (o.darknessChoices.length : ℤ) = o.darknessSupported ∧
      (o.darknessChoices.map (·.value)).head? = some (.string "0") ∧
      (o.darknessChoices.map (·.value)).getLast? = some (.string "100") ∧
      percents.Pairwise (· ≤ ·) ∧
      percents.IsChain (IsEvenStep (o.darknessSupported - 1)) ∧
      ((o.darknessChoices.map (·.value)).Nodup ↔ o.darknessSupported ≤ 101) := by
  obtain ⟨n, hsteps⟩ := Int.eq_ofNat_of_zero_le (show 0 ≤ o.darknessSupported by omega)
  have hn' : 2 ≤ n := by omega
  have hvalues := values_darknessChoices o
  rw [hsteps, Int.toNat_natCast] at hvalues
  refine ⟨darknessPercents n, hvalues, ?_, ?_, ?_, ?_, ?_, pairwise_darknessPercents hn', ?_, ?_⟩
  · rw [darknessChoices, hsteps, List.map_map, Int.toNat_natCast]
    rfl
  · rw [darknessChoices, hsteps, List.map_map, Int.toNat_natCast]
    rfl
  · rw [darknessChoices, List.length_map, hsteps, Int.toNat_natCast, length_darknessPercents hn']
  · rw [hvalues, List.head?_map, head?_darknessPercents hn']
    exact congrArg (some ∘ Json.string) (by decide)
  · rw [hvalues, List.getLast?_map, getLast?_darknessPercents hn']
    exact congrArg (some ∘ Json.string) (by decide)
  · rw [hsteps, Int.cast_natCast]
    exact isChain_darknessPercents hn'
  · rw [hvalues, List.nodup_map_iff string_natText_injective, nodup_darknessPercents_iff hn', hsteps]
    omega

/-- With three hundred steps neighbours are equal or one percent apart. -/
theorem darkness_steps_even_three_hundred :
    let o : DriverOptions :=
      { DriverOptions.labelPrinter with darknessSupported := 300, darknessConfigured := 33 }
    2 ≤ o.darknessSupported ∧ o.darknessChoices.length = 300 ∧
      ¬ (o.darknessChoices.map (·.value)).Nodup ∧
      (o.darknessChoices.map (·.value)).getLast? = some (.string "100") := by
  intro o
  have hn : 2 ≤ o.darknessSupported := by decide
  obtain ⟨_, -, -, -, hlength, -, hlast, -, -, hnodup⟩ := darkness_steps_even hn
  refine ⟨hn, Int.ofNat_inj.1 hlength, ?_, hlast⟩
  rw [hnodup]
  decide

end PrinterConsole.DriverOptions
