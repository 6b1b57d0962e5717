/-
  The speeds on the print defaults page.

  The choices are made by going from the slowest speed upwards in steps of an inch.  A choice
  shows the whole inches of its speed, and a pick is kept as that many inches.  The steps meet
  whole inches everywhere or nowhere (`dvd_iff_of_mem_speedsFrom`): everywhere if the slowest
  speed is a whole number of inches, and then every choice shows its own speed.  Otherwise every
  choice but the automatic one shows less than its speed, the first one less than the slowest, and
  a pick is kept as a speed that is no choice.

  Two questions are asked of the choices, what they list (`ListsWholeSpeeds`) and what is kept of
  a pick (`SpeedSticks`).  Both are answered for `speedOptions`, which is what `speedChoices`
  gives whenever it gives anything (`speedChoices_eq_ok_iff`).

  Main statement: `speeds_whole_iff`.
-/
import PrinterConsole.Proofs.Control.Picks

namespace PrinterConsole.DriverOptions

open PrinterConsole.Number

/-! ## Steps of an inch

  The speeds are listed from the lowest on, an inch apart, as far as the highest.  They are
  multiples of an inch all together, or none of them is. -/

/-- The speeds are the positive ones in the range that are steps of an inch from the slowest;
    `speedsFrom` is not unfolded after this. -/
theorem mem_speedsFrom {low high speed : Int} :
    speed ∈ speedsFrom low high ↔
      0 < speed ∧ low ≤ speed ∧ speed ≤ high ∧ speedScale ∣ speed - low := by
  unfold speedsFrom speedScale
  simp only [List.mem_filter, List.mem_map, List.mem_range, decide_eq_true_eq]
  constructor
  · rintro ⟨⟨k, hk, rfl⟩, hpos⟩
    split at hk <;> omega
  · rintro ⟨hpos, hlow, hhigh, k, hk⟩
    refine ⟨⟨k.toNat, ?_, by omega⟩, hpos⟩
    rw [if_pos (hlow.trans hhigh)]
    omega

theorem pairwise_speedsFrom (low high : Int) : (speedsFrom low high).Pairwise (· < ·) := by
  refine List.Pairwise.filter _ (List.pairwise_map.2 (List.pairwise_lt_range.imp fun h => ?_))
  unfold speedScale
  omega

/-- A speed is as many steps of `speedScale` from a whole number of inches as the slowest speed is:
    one is a whole number of inches exactly if the other is. -/
theorem dvd_iff_of_mem_speedsFrom {low high speed : Int} (h : speed ∈ speedsFrom low high) :
    speedScale ∣ speed ↔ speedScale ∣ low := by
  obtain ⟨-, -, -, hstep⟩ := mem_speedsFrom.1 h
  exact (Int.dvd_iff_dvd_of_dvd_sub hstep)

/-! ## The choices

  In front of the speeds stands the automatic choice.  The control can be made if all speeds can be
  written. -/

/-- The choice of an automatic speed, given the `chosen` speed. -/
def automaticChoice (chosen : Int) : Choice where
  value := .string "0"
  label := "Auto"
  selected := chosen == 0

/-- The choice of the speed `speed`, given the `chosen` one. -/
def speedOption (chosen speed : Int) : Choice where
  value := .string (intText (speed / speedScale))
  label := intText (speed / speedScale) ++ " " ++
    (if 2 * speedScale ≤ speed then "inches" else "inch") ++ "/sec"
  selected := speed == chosen

/-- All choices for the range from `low` to `high`, given the `chosen` speed. -/
def speedOptions (chosen low high : Int) : List Choice :=
  automaticChoice chosen :: (speedsFrom low high).map (speedOption chosen)

/-- No speed of the range has too many inches to be written (`isWritable`). -/
def HasWritableSpeeds (low high : Int) : Prop :=
  ∀ speed ∈ speedsFrom low high, isWritable (speed / speedScale) = true

/-- A choice can be made if its inches can be written, and is `speedOption` then. -/
theorem speedChoice_eq_ok_iff {o : DriverOptions} {speed : Int} {c : Choice} :
    speedChoice o speed = .ok c ↔
      isWritable (speed / speedScale) = true ∧ c = speedOption o.speedDefault speed := by
  unfold speedChoice
  dsimp only
  split
  · rename_i hwritable
    rw [Except.ok.injEq, eq_comm]
    exact ⟨fun h => ⟨hwritable, h⟩, And.right⟩
  · rename_i hlong
    exact iff_of_false nofun fun h => hlong h.1

/-- **The choices for a range** are there if each speed can be written (`HasWritableSpeeds`). -/
theorem speedChoices_eq_ok_iff {o : DriverOptions} {low high : Int} {choices : List Choice}
    (hrange : o.speedSupported = [.int low, .int high]) (hhigh : 0 < high) :
    speedChoices o = .ok choices ↔
      HasWritableSpeeds low high ∧ choices = speedOptions o.speedDefault low high := by
  have htruthy : (Json.int high).truthy = true := by
    rw [Json.truthy, bne_iff_ne]
    omega
  have hchoices : speedChoices o = (do
      let speeds ← (speedsFrom low high).mapM (speedChoice o)
      return automaticChoice o.speedDefault :: speeds) := by
    unfold speedChoices
    rw [hrange]
    dsimp only
    rw [htruthy]
    rfl
  have hall : HasWritableSpeeds low high ↔
      ∃ speeds, (speedsFrom low high).mapM (speedChoice o) = .ok speeds := by
    rw [exists_mapM_ok_iff]
    refine forall₂_congr fun speed _ => ?_
    simp only [speedChoice_eq_ok_iff, exists_and_left, exists_eq, and_true]
  rw [hchoices, bind_eq_ok]
  constructor
  · rintro ⟨speeds, hspeeds, h⟩
    cases h
    refine ⟨hall.2 ⟨speeds, hspeeds⟩, congrArg _ ?_⟩
    rw [← List.map_id speeds]
    exact map_of_mapM_ok hspeeds fun speed _ c hc => (speedChoice_eq_ok_iff.1 hc).2
  · rintro ⟨hwritable, rfl⟩
    refine ⟨_, mapM_eq_ok_map fun speed hspeed => ?_, rfl⟩
    exact speedChoice_eq_ok_iff.2 ⟨hwritable speed hspeed, rfl⟩

/-! ## What is listed

  The values are inches, rounded down.  So a range that begins with a whole number of inches is
  listed as it should be, and any other begins with a value below it. -/

/-- The `choices` are the automatic speed, and then exactly the whole numbers of inches in the
    range, each once and in ascending order. -/
def ListsWholeSpeeds (low high : Int) (choices : List Choice) : Prop :=
  (choices.map (·.label)).head? = some "Auto" ∧ ∃ ns : List Int,
    choices.map (·.value) = .string "0" :: ns.map (fun n => .string (intText n)) ∧
      (∀ n, n ∈ ns ↔ 1 ≤ n ∧ low ≤ speedScale * n ∧ speedScale * n ≤ high) ∧
      ns.Pairwise (· < ·)

theorem values_speedOptions (chosen low high : Int) :
    (speedOptions chosen low high).map (·.value) =
      .string "0" :: ((speedsFrom low high).map (· / speedScale)).map
        (fun n => .string (intText n)) := by
  rw [speedOptions, List.map_cons, List.map_map, List.map_map]
  rfl

/-- Steps that start from whole inches (`speedScale ∣ low`) meet all whole inches of the range, and
    nothing else. -/
theorem listsWholeSpeeds_of_dvd {low : Int} (hdvd : speedScale ∣ low) (chosen high : Int) :
    ListsWholeSpeeds low high (speedOptions chosen low high) := by
  refine ⟨rfl, _, values_speedOptions chosen low high, fun n => ?_, ?_⟩
  · rw [List.mem_map]
    constructor
    · rintro ⟨speed, hspeed, rfl⟩
      obtain ⟨k, rfl⟩ := (dvd_iff_of_mem_speedsFrom hspeed).2 hdvd
      obtain ⟨hpos, hlow, hhigh, -⟩ := mem_speedsFrom.1 hspeed
      unfold speedScale at *
      omega
    · rintro ⟨hpos, hlow, hhigh⟩
      refine ⟨speedScale * n, mem_speedsFrom.2 ⟨?_, hlow, hhigh, ?_⟩, ?_⟩
      · unfold speedScale
        omega
      · exact Int.dvd_sub (Int.dvd_mul_right _ _) hdvd
      · unfold speedScale
        omega
  · refine List.pairwise_map.2 ((pairwise_speedsFrom low high).imp_of_mem fun hx hy hlt => ?_)
    obtain ⟨-, -, -, hx⟩ := mem_speedsFrom.1 hx
    obtain ⟨-, -, -, hy⟩ := mem_speedsFrom.1 hy
    unfold speedScale at *
    omega

/-- The first choice shows a speed of the range only if the slowest one is whole inches: otherwise
    it shows less than the slowest. -/
theorem dvd_of_listsWholeSpeeds {chosen low high : Int} (hlow : 0 ≤ low) (hle : low ≤ high)
    (h : ListsWholeSpeeds low high (speedOptions chosen low high)) : speedScale ∣ low := by
  obtain ⟨-, ns, hvalues, hns, -⟩ := h
  rw [values_speedOptions, List.cons.injEq] at hvalues
  have hinj : Function.Injective fun n : Int => Json.string (intText n) :=
    fun m n heq => Form.intText_inj.1 (Json.string.inj heq)
  have hlisted : (speedsFrom low high).map (· / speedScale) = ns :=
    List.map_injective_iff.2 hinj hvalues.2
  rcases hlow.eq_or_lt with rfl | hpos
  · exact Int.dvd_zero _
  · have hfirst : low ∈ speedsFrom low high :=
      mem_speedsFrom.2 ⟨hpos, Int.le_refl _, hle, by rw [Int.sub_self]; exact Int.dvd_zero _⟩
    have hmem := List.mem_map_of_mem (f := (· / speedScale)) hfirst
    rw [hlisted, hns] at hmem
    unfold speedScale at *
    omega

/-- From whole inches on, the fastest speed `high` is the whole number of inches at the end of the
    range, and the others have no more digits. -/
theorem hasWritableSpeeds_iff {low high : Int} (hlow : 0 ≤ low) (hle : low ≤ high)
    (hdvd : speedScale ∣ low) :
    HasWritableSpeeds low high ↔ isWritable (high / speedScale) = true := by
  constructor
  · intro h
    by_cases hpos : 0 < high / speedScale
    · have hlast : speedScale * (high / speedScale) ∈ speedsFrom low high := by
        refine mem_speedsFrom.2 ⟨?_, ?_, ?_, Int.dvd_sub (Int.dvd_mul_right _ _) hdvd⟩ <;>
          (unfold speedScale at *; omega)
      have hwhole : speedScale * (high / speedScale) / speedScale = high / speedScale := by
        unfold speedScale
        omega
      exact hwhole ▸ h _ hlast
    · exact isWritable_of_le (by unfold speedScale at *; omega)
  · intro h speed hspeed
    obtain ⟨hpos, -, hhigh, -⟩ := mem_speedsFrom.1 hspeed
    rw [isWritable, decide_eq_true_eq] at h ⊢
    unfold speedScale at *
    omega

/-! ## What is kept of a pick

  A speed is submitted in inches, so the fraction of an inch is lost.  What is selected afterwards
  is the choice of the speed that is left, if it is listed. -/

/-- The choice at the place `i` sticks: its value is submitted as a speed, the page after it has the
    same values, and of its choices that one is selected and no other. -/
def SpeedSticks (o : DriverOptions) (choices : List Choice) (i : Nat) : Prop :=
  ∃ (c : Choice) (text : String) (o' : DriverOptions) (after : List Choice),
    choices[i]? = some c ∧ c.value = .string text ∧
      applyDefaultsForm (oneField "print-speed" text) o = .ok (o', [.speed]) ∧
      speedChoices o' = .ok after ∧ after.map (·.value) = choices.map (·.value) ∧
      ∀ j, (∃ d, after[j]? = some d ∧ d.selected = true) ↔ j = i

/-- A picked number of inches is kept, as a multiple of `speedScale`. -/
theorem applyDefaultsForm_speed (o : DriverOptions) {n : Int} (hn : isWritable n = true) :
    applyDefaultsForm (oneField "print-speed" (intText n)) o =
      .ok ({ o with speedDefault := n * speedScale }, [.speed]) := by
  have htext : (intText n).toList = (intText n).toList ++ [] := (List.append_nil _).symm
  have hread : Default.read o .speed (some (intText n)) = some (n * speedScale) := by
    rw [Default.read, Option.bind_some, Default.read.number?,
      Form.leadingInt_intText hn htext noDigit_nil]
    rfl
  refine applyDefaultsForm_oneField hread (by decide) fun run hrun => ?_
  change run ∈ (Form.digitRuns (intText n)).take 1 at hrun
  rw [Form.digitRuns_intText htext noDigit_nil, List.take_succ_cons, List.take_zero,
    List.mem_singleton] at hrun
  rw [hrun]
  exact Form.length_values_le hn

/-- Whole inches `n` that were picked are selected where they are a speed, and the automatic choice
    if they are none. -/
theorem selected_speedOptions {low high n : Int} {j : Nat} :
    (∃ d, (speedOptions (n * speedScale) low high)[j]? = some d ∧ d.selected = true) ↔
      (j = 0 ∧ n = 0) ∨ ∃ k, j = k + 1 ∧ (speedsFrom low high)[k]? = some (n * speedScale) := by
  unfold speedOptions
  cases j with
  | zero =>
    have hzero : n * speedScale = 0 ↔ n = 0 := by
      unfold speedScale
      omega
    simp only [List.getElem?_cons_zero, Option.some.injEq, exists_eq_left', automaticChoice,
      beq_iff_eq, hzero, true_and, right_eq_add, Nat.add_eq_zero_iff, Nat.succ_ne_self, and_false,
      false_and, exists_false, or_false]
  | succ k =>
    simp only [List.getElem?_cons_succ, List.getElem?_map, Option.map_eq_some_iff, speedOption,
      Nat.add_right_cancel_iff, exists_eq_left', Nat.succ_ne_zero, false_and, false_or]
    constructor
    · rintro ⟨d, ⟨speed, hspeed, rfl⟩, hselected⟩
      rw [hspeed, beq_iff_eq.1 hselected]
    · intro h
      exact ⟨_, ⟨_, h, rfl⟩, beq_self_eq_true _⟩

/-- A pick of a number of inches sticks if of the choices after it that one is selected:
    `SpeedSticks` without the form and the page after it. -/
theorem speedSticks_iff {o : DriverOptions} {low high : Int} {choices : List Choice}
    (hrange : o.speedSupported = [.int low, .int high]) (hhigh : 0 < high)
    (hchoices : speedChoices o = .ok choices) {i : Nat} {c : Choice} {n : Int}
    (hc : choices[i]? = some c) (hvalue : c.value = .string (intText n))
    (hn : isWritable n = true) :
    SpeedSticks o choices i ↔
      ∀ j, (j = 0 ∧ n = 0) ∨ (∃ k, j = k + 1 ∧ (speedsFrom low high)[k]? = some (n * speedScale)) ↔
        j = i := by
  obtain ⟨hwritable, rfl⟩ := (speedChoices_eq_ok_iff hrange hhigh).1 hchoices
  have hafter : speedChoices { o with speedDefault := n * speedScale } =
      .ok (speedOptions (n * speedScale) low high) :=
    (speedChoices_eq_ok_iff (o := { o with speedDefault := n * speedScale }) hrange hhigh).2
      ⟨hwritable, rfl⟩
  constructor
  · rintro ⟨c', text, o', after, hc', htext, happly, hpage, -, hselected⟩ j
    cases hc.symm.trans hc'
    cases hvalue.symm.trans htext
    cases (applyDefaultsForm_speed o hn).symm.trans happly
    cases hafter.symm.trans hpage
    rw [← hselected, selected_speedOptions]
  · intro h
    refine ⟨c, _, _, _, hc, hvalue, applyDefaultsForm_speed o hn, hafter, ?_, fun j => ?_⟩
    · rw [values_speedOptions, values_speedOptions]
    · rw [selected_speedOptions, h]

/-- **The automatic speed sticks, and the others if the slowest speed is whole inches.** If it is
    not, what is kept of a pick is no speed of the range, so nothing is selected at all. -/
theorem speedSticks_iff_dvd {o : DriverOptions} {low high : Int} {choices : List Choice}
    (hrange : o.speedSupported = [.int low, .int high]) (hhigh : 0 < high)
    (hchoices : speedChoices o = .ok choices) {i : Nat} (hi : i < choices.length) :
    SpeedSticks o choices i ↔ i = 0 ∨ speedScale ∣ low := by
  obtain ⟨hwritable, hoptions⟩ := (speedChoices_eq_ok_iff hrange hhigh).1 hchoices
  have hpositive : ∀ {k : Nat} {speed : Int}, (speedsFrom low high)[k]? = some speed → 0 < speed :=
    fun h => (mem_speedsFrom.1 (List.mem_of_getElem? h)).1
  cases i with
  | zero =>
    have hc : choices[0]? = some (automaticChoice o.speedDefault) := by rw [hoptions]; rfl
    rw [speedSticks_iff hrange hhigh hchoices hc (n := 0) rfl (isWritable_of_le (by decide))]
    refine iff_of_true (fun j => ⟨?_, fun h => .inl ⟨h, rfl⟩⟩) (.inl rfl)
    rintro (h | ⟨k, -, hspeed⟩)
    · exact h.1
    · -- the automatic speed is no speed of the range
      exact absurd (hpositive hspeed) (by decide)
  | succ k =>
    obtain ⟨speed, hspeed⟩ : ∃ speed, (speedsFrom low high)[k]? = some speed := by
      rw [hoptions, speedOptions, List.length_cons, List.length_map] at hi
      exact ⟨_, List.getElem?_eq_getElem (Nat.lt_of_succ_lt_succ hi)⟩
    have hmem := List.mem_of_getElem? hspeed
    have hc : choices[k + 1]? = some (speedOption o.speedDefault speed) := by
      rw [hoptions, speedOptions, List.getElem?_cons_succ, List.getElem?_map, hspeed]
      rfl
    rw [speedSticks_iff hrange hhigh hchoices hc rfl (hwritable speed hmem),
      ← dvd_iff_of_mem_speedsFrom hmem]
    constructor
    · intro h
      rcases (h (k + 1)).2 rfl with hzero | ⟨k', hk', hkept⟩
      · exact absurd hzero.1 (Nat.succ_ne_zero k)
      · cases Nat.succ.inj hk'
        -- kept as it is, the speed is a multiple of the scale
        rw [hspeed, Option.some.injEq] at hkept
        exact .inr ⟨_, hkept.trans (Int.mul_comm _ _)⟩
    · rintro (h | hdvd)
      · exact absurd h (Nat.succ_ne_zero k)
      · rw [Int.ediv_mul_cancel hdvd]
        intro j
        constructor
        · rintro (⟨-, hzero⟩ | ⟨k', rfl, hsame⟩)
          · -- a speed that is a multiple of the scale is not rounded to the automatic one
            have hpos := hpositive hspeed
            unfold speedScale at *
            omega
          · obtain ⟨hk, -⟩ := List.getElem?_eq_some_iff.1 hsame
            have hnodup : (speedsFrom low high).Nodup :=
              (pairwise_speedsFrom low high).imp Int.ne_of_lt
            exact congrArg _ ((List.getElem?_inj hk hnodup).1 (hsame.trans hspeed.symm))
        · rintro rfl
          exact .inr ⟨k, rfl, hspeed⟩

/-- **The speeds of a range are listed as they should be exactly if the slowest one is a whole
    number of inches** and the fastest one can be written.  Then every pick sticks (`SpeedSticks`);
    otherwise only the automatic speed does. -/
theorem speeds_whole_iff {o : DriverOptions} {low high : Int}
    (hrange : o.speedSupported = [.int low, .int high]) (hlow : 0 ≤ low) (hle : low ≤ high)
    (hhigh : 0 < high) :
    ((∃ choices, speedChoices o = .ok choices ∧ ListsWholeSpeeds low high choices) ↔
      speedScale ∣ low ∧ isWritable (high / speedScale) = true) ∧
    ∀ choices, speedChoices o = .ok choices → ∀ i < choices.length,
      (SpeedSticks o choices i ↔ i = 0 ∨ speedScale ∣ low) := by
  refine ⟨?_, fun choices hchoices i hi => speedSticks_iff_dvd hrange hhigh hchoices hi⟩
  constructor
  · rintro ⟨choices, hchoices, hlisted⟩
    obtain ⟨hwritable, rfl⟩ := (speedChoices_eq_ok_iff hrange hhigh).1 hchoices
    have hdvd := dvd_of_listsWholeSpeeds hlow hle hlisted
    exact ⟨hdvd, (hasWritableSpeeds_iff hlow hle hdvd).1 hwritable⟩
  · rintro ⟨hdvd, hlast⟩
    have hwritable := (hasWritableSpeeds_iff hlow hle hdvd).2 hlast
    exact ⟨_, (speedChoices_eq_ok_iff hrange hhigh).2 ⟨hwritable, rfl⟩,
      listsWholeSpeeds_of_dvd hdvd _ _⟩

/-- The label printer lists its six speeds and keeps what is picked. -/
theorem speeds_whole_iff_six_inches :
    DriverOptions.labelPrinter.speedSupported = [.int 2540, .int 15240] ∧
      ∃ choices, speedChoices .labelPrinter = .ok choices ∧ ListsWholeSpeeds 2540 15240 choices ∧
        choices.length = 7 ∧ SpeedSticks .labelPrinter choices 6 := by
  have hrange : DriverOptions.labelPrinter.speedSupported = [.int 2540, .int 15240] := rfl
  obtain ⟨hlists, hsticks⟩ :=
    speeds_whole_iff hrange (by decide) (by decide) (by decide)
  obtain ⟨choices, hchoices, hlisted⟩ :=
    hlists.2 ⟨by decide, isWritable_of_le (by decide)⟩
  have hlength : choices.length = 7 := by
    obtain ⟨-, rfl⟩ := (speedChoices_eq_ok_iff hrange (by decide)).1 hchoices
    rfl
  exact ⟨hrange, choices, hchoices, hlisted, hlength,
    (hsticks choices hchoices 6 (by omega)).2 (.inr (by decide))⟩

/-- From half an inch on (`1270`), the first number of inches that is listed is below the range. -/
theorem not_forall_speeds_whole :
    ¬ ∀ (o : DriverOptions) (low high : Int), o.speedSupported = [.int low, .int high] →
      0 ≤ low → low ≤ high → 0 < high →
        ∃ choices, speedChoices o = .ok choices ∧ ListsWholeSpeeds low high choices ∧
          ∀ i < choices.length, SpeedSticks o choices i := by
  intro h
  have hrange : { DriverOptions.labelPrinter with
      speedSupported := [.int 1270, .int 7620] }.speedSupported = [.int 1270, .int 7620] := rfl
  obtain ⟨choices, hchoices, hlisted, -⟩ :=
    h _ 1270 7620 hrange (by decide) (by decide) (by decide)
  obtain ⟨-, rfl⟩ := (speedChoices_eq_ok_iff hrange (by decide)).1 hchoices
  exact absurd (dvd_of_listsWholeSpeeds (by decide) (by decide) hlisted) (by decide)

end PrinterConsole.DriverOptions
