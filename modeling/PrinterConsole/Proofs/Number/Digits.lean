/-
  Digit runs and their values.

  Numbers are written in ASCII digits with the most significant one first and no zero in front
  (`Nat.toDigits`), and a run of digits is read as a number whatever zeros stand in front.  The
  lemmas are in that order: the value of a run (`digitsValue`), the digits as characters
  (`isAsciiDigit`), and the digits that are written of a number.

  Main statements: reading the digits of a number gives the number (`digitsValue_toDigits`), the
  number of digits tells the size (`lt_pow_length_toDigits`, `pow_length_toDigits_le`), a value
  does not depend on zeros in front (`digitsValue_dropWhile`), and which runs are no whole number
  (`wholeOf_eq_none_iff`).
-/
import Mathlib.Tactic.Linarith
import Mathlib.Tactic.Ring
import PrinterConsole.Number.Numeral

namespace PrinterConsole.Number

open PrinterConsole.Text

/-! ## Values of digit runs -/

@[simp] theorem digitsValue_nil : digitsValue [] = 0 := rfl

/-- The fold behind `digitsValue` from any number on, by induction on the digits. -/
theorem foldl_digits_eq (ds : List Nat) (start : Nat) :
    ds.foldl (fun n d => 10 * n + d) start = start * 10 ^ ds.length + digitsValue ds := by
  induction ds generalizing start with
  | nil => simp
  | cons d rest ih =>
    rw [digitsValue, List.foldl_cons, List.foldl_cons, ih, ih (10 * 0 + d), List.length_cons,
      pow_succ]
    ring

theorem digitsValue_cons (d : Nat) (rest : List Nat) :
    digitsValue (d :: rest) = d * 10 ^ rest.length + digitsValue rest := by
  rw [digitsValue, List.foldl_cons, foldl_digits_eq]
  ring

theorem digitsValue_append (ds es : List Nat) :
    digitsValue (ds ++ es) = digitsValue ds * 10 ^ es.length + digitsValue es := by
  rw [digitsValue, List.foldl_append, foldl_digits_eq]
  rfl

theorem digitsValue_replicate_zero (n : Nat) : digitsValue (List.replicate n 0) = 0 := by
  induction n with
  | zero => rfl
  | succ n ih => rw [List.replicate_succ, digitsValue_cons, ih, Nat.zero_mul]

/-- So many digits make a number below that power of ten. -/
theorem digitsValue_lt {ds : List Nat} (h : ∀ d ∈ ds, d < 10) :
    digitsValue ds < 10 ^ ds.length := by
  induction ds with
  | nil => simp
  | cons d rest ih =>
    rw [List.forall_mem_cons] at h
    have hrest := ih h.2
    have hd : d * 10 ^ rest.length ≤ 9 * 10 ^ rest.length := Nat.mul_le_mul_right _ (by omega)
    rw [digitsValue_cons, List.length_cons, pow_succ]
    omega

/-- A run that does not start with a zero has the size of its length, at least
    `10 ^ rest.length`. -/
theorem pow_le_digitsValue {d : Nat} (hd : d ≠ 0) (rest : List Nat) :
    10 ^ rest.length ≤ digitsValue (d :: rest) := by
  rw [digitsValue_cons]
  have : 1 * 10 ^ rest.length ≤ d * 10 ^ rest.length := Nat.mul_le_mul_right _ (by omega)
  omega

/-- **Zeros in front do not count** for `digitsValue`. -/
theorem digitsValue_dropWhile (ds : List Nat) :
    digitsValue (ds.dropWhile (· == 0)) = digitsValue ds := by
  induction ds with
  | nil => rfl
  | cons d rest ih =>
    rw [List.dropWhile_cons]
    split
    · rename_i hd
      have hz : d = 0 := by simpa using hd
      rw [ih, digitsValue_cons, hz, Nat.zero_mul, Nat.zero_add]
    · rfl

/-! ## ASCII digits -/

theorem digitValue?_of_ascii {c : Char} (h : isAsciiDigit c = true) :
    digitValue? c = some (c.toNat - 48) :=
  digitValue?_ascii h

theorem isDigit_of_ascii {c : Char} (h : isAsciiDigit c = true) : isDigit c = true := by
  rw [isDigit, digitValue?_of_ascii h]
  rfl

/-- The values of ASCII digits are as far from `'0'` as the characters. -/
theorem filterMap_digitValue? {cs : List Char} (h : ∀ c ∈ cs, isAsciiDigit c = true) :
    cs.filterMap digitValue? = cs.map fun c => c.toNat - 48 := by
  induction cs with
  | nil => rfl
  | cons c rest ih =>
    rw [List.forall_mem_cons] at h
    rw [List.filterMap_cons_some (digitValue?_of_ascii h.1), ih h.2, List.map_cons]

theorem digit_lt_of_ascii {c : Char} (h : isAsciiDigit c = true) : c.toNat - 48 < 10 := by
  simp only [isAsciiDigit, Bool.and_eq_true, decide_eq_true_eq] at h
  omega

/-! ## Runs that are no whole number -/

/-- A digit run is no whole number exactly if it is empty or longer than `maxDigits`. -/
theorem wholeOf_eq_none_iff {negative : Bool} {ds : List Nat} :
    wholeOf negative ds = none ↔ ds = [] ∨ maxDigits < ds.length := by
  unfold wholeOf
  by_cases h : (ds.isEmpty || maxDigits < ds.length) = true
  · rw [if_pos h]
    simpa using h
  · rw [if_neg h]
    simpa using h

/-! ## The digits of a number -/

/-- What `Nat.toDigits` writes in base ten are ASCII digits. -/
theorem isAsciiDigit_of_mem_toDigits {n : Nat} {c : Char} (h : c ∈ Nat.toDigits 10 n) :
    isAsciiDigit c = true := by
  have hd := Nat.isDigit_of_mem_toDigits (by decide) (by decide) h
  simp only [Char.isDigit, Bool.and_eq_true, decide_eq_true_eq, ge_iff_le, UInt32.le_iff_toNat_le]
    at hd
  simp only [isAsciiDigit, Bool.and_eq_true, decide_eq_true_eq]
  exact hd

/-- **Reading the digits of a number gives the number**: `digitsValue` undoes `Nat.toDigits`. -/
theorem digitsValue_toDigits (n : Nat) :
    digitsValue ((Nat.toDigits 10 n).filterMap digitValue?) = n := by
  rw [filterMap_digitValue? fun c hc => isAsciiDigit_of_mem_toDigits hc, digitsValue,
    List.foldl_map]
  exact Nat.ofDigitChars_ten_toDigits

theorem lt_pow_length_toDigits (n : Nat) : n < 10 ^ (Nat.toDigits 10 n).length :=
  (Nat.length_toDigits_le_iff (by decide) Nat.length_toDigits_pos).1 le_rfl

/-- The first digit of a positive number is not zero, so the number is at least that power of
    ten. -/
theorem pow_length_toDigits_le {n : Nat} (h : 0 < n) :
    10 ^ ((Nat.toDigits 10 n).length - 1) ≤ n := by
  rcases Nat.lt_or_ge 1 (Nat.toDigits 10 n).length with hl | hl
  · by_contra hlt
    have := (Nat.length_toDigits_le_iff (b := 10) (by decide) (by omega)).2 (not_le.1 hlt)
    omega
  · rw [Nat.sub_eq_zero_of_le hl]
    exact h

/-- The digits of a positive number do not start with a zero (`Nat.toDigits`). -/
theorem exists_toDigits_eq_cons {n : Nat} (h : 0 < n) :
    ∃ c rest, Nat.toDigits 10 n = c :: rest ∧ isAsciiDigit c = true ∧ c ≠ '0' := by
  obtain ⟨c, rest, hds⟩ := List.exists_cons_of_ne_nil (Nat.toDigits_ne_nil (n := n) (b := 10))
  have hc : isAsciiDigit c = true := isAsciiDigit_of_mem_toDigits (n := n) (by simp [hds])
  refine ⟨c, rest, hds, hc, ?_⟩
  rintro rfl
  -- with a zero in front the number would be too small for its length
  have hlow := pow_length_toDigits_le h
  have hrest : ∀ c ∈ rest, isAsciiDigit c = true :=
    fun c hc => isAsciiDigit_of_mem_toDigits (n := n) (by simp [hds, hc])
  have hdigits : ∀ d ∈ rest.map fun c => c.toNat - 48, d < 10 := by
    intro d hd
    obtain ⟨c, hcr, rfl⟩ := List.mem_map.1 hd
    exact digit_lt_of_ascii (hrest c hcr)
  have hlt := digitsValue_lt hdigits
  have hvalue := digitsValue_toDigits n
  rw [hds, List.filterMap_cons_some (digitValue?_of_ascii hc), filterMap_digitValue? hrest,
    digitsValue_cons] at hvalue
  rw [hds, List.length_cons, Nat.add_sub_cancel] at hlow
  rw [List.length_map] at hlt
  simp at hvalue
  omega

end PrinterConsole.Number
