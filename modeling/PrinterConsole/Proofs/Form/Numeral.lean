/-
  Numbers in form fields are read back.

  A whole number is read from the start of a text, up to where no digit follows.  A resolution is
  written as one number, or as two joined by an `x`, in front of a unit that starts with a letter,
  so each number ends where it was written to end (`NoDigit`).

  The reader is opened once, for a written number with anything behind it that is no digit
  (`leadingDigits_intText`).  Both forms of a resolution are then instances of it, with what
  follows the number for the rest.

  Main statements: a text that starts with a written number is read as it (`leadingInt_intText`),
  and the text of a resolution is read as the resolution (`resolution_resolutionName`), so that no
  two resolutions are written alike (`resolutionName_inj`).
-/
import PrinterConsole.Form.Value
import PrinterConsole.Json.Display
import PrinterConsole.Proofs.Fault
import PrinterConsole.Proofs.Number.Whole

namespace PrinterConsole.Form

open PrinterConsole.Number PrinterConsole.Text

/-! ## One number -/

/-- A character that is no sign is left in place by `signed`, be it a digit of whatever script. -/
theorem signed_of_isDigit {c : Char} (hc : isDigit c = true) (cs : List Char) :
    signed (c :: cs) = (false, c :: cs) := by
  rw [signed.eq_def]
  split
  · rename_i heq
    cases heq
    exact absurd hc (by decide)
  · rename_i heq
    cases heq
    exact absurd hc (by decide)
  · rfl

/-- A written number (`intText`) comes apart into its sign and its digits. -/
theorem signed_intText (n : Int) (rest : List Char) :
    signed ((intText n).toList ++ rest) =
      (decide (n < 0), Nat.toDigits 10 n.natAbs ++ rest) := by
  rw [toList_intText, List.append_assoc]
  cases decide (n < 0) with
  | true => rfl
  | false =>
    obtain ⟨c, more, hds, hc⟩ := exists_toDigits_cons n.natAbs
    rw [signChars, if_neg (by decide), List.nil_append, hds, List.cons_append,
      signed_of_isDigit (isDigit_of_ascii hc)]

/-- A written number is taken off the front by `leadingDigits` of a text, if no digit follows it
    there. -/
theorem leadingDigits_intText (n : Int) {rest : List Char} (hr : NoDigit rest) :
    leadingDigits ((intText n).toList ++ rest) =
      some ((decide (n < 0), values (Nat.toDigits 10 n.natAbs)), rest) := by
  obtain ⟨v, vs, hvalues⟩ : ∃ v vs, values (Nat.toDigits 10 n.natAbs) = v :: vs := by
    refine List.exists_cons_of_length_pos ?_
    rw [length_values (ascii_toDigits _)]
    exact Nat.length_toDigits_pos
  rw [leadingDigits, signed_intText]
  simp only [digitRun_append (ascii_toDigits _) hr, hvalues]

/-- **No two whole numbers are written alike** by `intText`, as a number is read back from its
    text. -/
theorem intText_inj {m n : Int} : intText m = intText n ↔ m = n := by
  refine ⟨fun h => ?_, fun h => h ▸ rfl⟩
  have hread := leadingDigits_intText m noDigit_nil
  rw [h, leadingDigits_intText n noDigit_nil, Option.some.injEq, Prod.mk.injEq, Prod.mk.injEq,
    decide_eq_decide] at hread
  obtain ⟨⟨hsign, hvalues⟩, -⟩ := hread
  have hvalue := congrArg digitsValue hvalues
  rw [values, values, digitsValue_toDigits, digitsValue_toDigits] at hvalue
  omega

/-- A number that is not too long is what its sign and its digits say: `isWritable` bounds the
    digits that were written. -/
theorem numberOf_values {n : Int} (hn : isWritable n = true) :
    numberOf (decide (n < 0), values (Nat.toDigits 10 n.natAbs)) = .ok n := by
  have hlength := length_values (ascii_toDigits n.natAbs)
  have hpos : 0 < (Nat.toDigits 10 n.natAbs).length := Nat.length_toDigits_pos
  have hshort := length_toDigits_le hn
  have hlong : ¬((values (Nat.toDigits 10 n.natAbs)).isEmpty ||
      maxDigits < (values (Nat.toDigits 10 n.natAbs)).length) = true := by
    simp only [Bool.or_eq_true, List.isEmpty_iff, decide_eq_true_eq, ← List.length_eq_zero_iff]
    omega
  have hvalue : digitsValue (values (Nat.toDigits 10 n.natAbs)) = n.natAbs :=
    digitsValue_toDigits _
  unfold numberOf
  rw [wholeOf, if_neg hlong, hvalue]
  by_cases hneg : n < 0
  · simp only [hneg, decide_true, if_true]
    rw [show -(n.natAbs : Int) = n by omega]
  · simp only [hneg, decide_false, if_false, Bool.false_eq_true]
    rw [show (n.natAbs : Int) = n by omega]

/-- The text of a number begins with a digit or its sign, so nothing is trimmed there. -/
theorem trimStart_intText (n : Int) (rest : List Char) :
    trimStart ((intText n).toList ++ rest) = (intText n).toList ++ rest := by
  obtain ⟨c, more, hds, hc⟩ := exists_toDigits_cons n.natAbs
  have hdigit : isBlank c = false := by
    simp only [isAsciiDigit, Bool.and_eq_true, decide_eq_true_eq] at hc
    rw [← Bool.not_eq_true]
    intro hblank
    simp only [isBlank, Bool.or_eq_true, Bool.and_eq_true, decide_eq_true_eq, beq_iff_eq] at hblank
    omega
  rw [toList_intText, hds, List.append_assoc]
  cases decide (n < 0) with
  | true => exact List.dropWhile_cons_of_neg (by decide)
  | false => exact List.dropWhile_cons_of_neg (by simp [hdigit])

/-- **A text that starts with a written number is read as the number** by `leadingInt`. -/
theorem leadingInt_intText {n : Int} (hn : isWritable n = true) {text : String} {rest : List Char}
    (htext : text.toList = (intText n).toList ++ rest) (hr : NoDigit rest) :
    leadingInt text = .ok (some n) := by
  rw [leadingInt, htext, trimStart_intText, leadingDigits_intText n hr]
  simp only [numberOf_values hn, Except.map]

/-! ## Resolutions -/

/-- The text of a resolution of the whole numbers `x` and `y`. -/
def resolutionName (x y : Int) : String :=
  (if x = y then intText x else intText x ++ "x" ++ intText y) ++ "dpi"

/-- A resolution of whole numbers that can be written has a text, which is `resolutionName`. -/
theorem resolutionText_int {x y : Int} (hx : isWritable x = true) (hy : isWritable y = true) :
    resolutionText (.int x) (.int y) = .ok (resolutionName x y) := by
  simp only [resolutionText, Json.writable, hx, hy, Bool.and_self, if_true, Json.same, beq_iff_eq,
    Json.shown, Json.literal, resolutionName]

/-- `resolutionName` character by character, behind its first number. -/
theorem toList_resolutionName (x y : Int) :
    (resolutionName x y).toList = (intText x).toList ++
      (if x = y then ['d', 'p', 'i'] else 'x' :: ((intText y).toList ++ ['d', 'p', 'i'])) := by
  have hunit : "dpi".toList = ['d', 'p', 'i'] := rfl
  have hjoint : "x".toList = ['x'] := rfl
  unfold resolutionName
  split
  · rw [String.toList_append, hunit]
  · rw [String.toList_append, String.toList_append, String.toList_append, hunit, hjoint,
      List.append_assoc, List.append_assoc, List.singleton_append]

theorem noDigit_afterFirst (x y : Int) :
    NoDigit (if x = y then ['d', 'p', 'i'] else 'x' :: ((intText y).toList ++ ['d', 'p', 'i'])) := by
  split <;> exact noDigit_cons (by decide) _

/-- **The text of a resolution (`resolutionName`) is read as the resolution**: one number where both
    are the same, and two where they are not. -/
theorem resolution_resolutionName {x y : Int} (hx : isWritable x = true)
    (hy : isWritable y = true) : resolution (resolutionName x y) = .ok (some (x, y)) := by
  have hunit : NoDigit ['d', 'p', 'i'] := noDigit_cons (by decide) _
  rw [resolution, toList_resolutionName, trimStart_intText,
    leadingDigits_intText x (noDigit_afterFirst x y)]
  simp only [numberOf_values hx, ok_bind]
  by_cases hxy : x = y
  · simp only [hxy]
    rfl
  · simp only [if_neg hxy, leadingDigits_intText y hunit, numberOf_values hy, ok_bind]
    rfl

/-- No two resolutions are written alike by `resolutionName`. -/
theorem resolutionName_inj {x y x' y' : Int} (hx : isWritable x = true) (hy : isWritable y = true)
    (hx' : isWritable x' = true) (hy' : isWritable y' = true) :
    resolutionName x y = resolutionName x' y' ↔ x = x' ∧ y = y' := by
  constructor
  · intro h
    have hread := resolution_resolutionName hx hy
    rw [h, resolution_resolutionName hx' hy'] at hread
    cases hread
    exact ⟨rfl, rfl⟩
  · rintro ⟨rfl, rfl⟩
    rfl

end PrinterConsole.Form
