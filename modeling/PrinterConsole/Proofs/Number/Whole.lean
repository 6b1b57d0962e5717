/-
  Written whole numbers.

  A whole number is written as a minus sign, if it is negative (`signChars`), and the digits of
  its size.  Which numbers can be written at all is told by the number of their digits
  (`isWritable`).

  Main statements: what is written of a whole number (`toList_intText`), and that digits which no
  digit follows can be told from the text they make (`append_toDigits_inj`), so that no two
  numbers are written alike (`natText_inj`).
-/
import PrinterConsole.Proofs.Number.Written

namespace PrinterConsole.Number

open PrinterConsole.Text

/-- The sign in front of a number, none if it is not `negative`. -/
def signChars (negative : Bool) : List Char := if negative then ['-'] else []

theorem toList_natText (n : Nat) : (natText n).toList = Nat.toDigits 10 n := String.toList_ofList

/-- A whole number is written as its sign (`signChars`) and the digits of its size. -/
theorem toList_intText (n : Int) :
    (intText n).toList = signChars (decide (n < 0)) ++ Nat.toDigits 10 n.natAbs := by
  cases n with
  | ofNat n =>
    rw [intText, toList_natText, decide_eq_false (by simp)]
    rfl
  | negSucc n =>
    rw [intText, String.toList_append, toList_natText, decide_eq_true (Int.negSucc_lt_zero n)]
    rfl

theorem intText_natCast (n : Nat) : intText (n : Int) = natText n := rfl

theorem ascii_toDigits (n : Nat) : ∀ c ∈ Nat.toDigits 10 n, isAsciiDigit c = true :=
  fun _ hc => isAsciiDigit_of_mem_toDigits hc

theorem exists_toDigits_cons (n : Nat) :
    ∃ c more, Nat.toDigits 10 n = c :: more ∧ isAsciiDigit c = true := by
  obtain ⟨c, more, hds⟩ := List.exists_cons_of_ne_nil (Nat.toDigits_ne_nil (n := n) (b := 10))
  exact ⟨c, more, hds, ascii_toDigits n c (by simp [hds])⟩

/-- A number that can be written has at most `maxDigits` digits. -/
theorem length_toDigits_le {n : Int} (h : isWritable n = true) :
    (Nat.toDigits 10 n.natAbs).length ≤ maxDigits := by
  rw [isWritable, decide_eq_true_eq, Nat.pow_eq,
    ← Nat.length_toDigits_le_iff (by decide) (by decide)] at h
  exact h

/-- A number below a power of ten can be written if the exponent is at most `maxDigits`. -/
theorem isWritable_of_lt_pow {n : Int} {k : Nat} (h : n.natAbs < 10 ^ k) (hk : k ≤ maxDigits) :
    isWritable n = true := by
  have hpow : 10 ^ k ≤ 10 ^ maxDigits := Nat.pow_le_pow_right (by decide) hk
  rw [isWritable, decide_eq_true_eq, Nat.pow_eq]
  omega

theorem isWritable_of_le {n : Int} (h : n.natAbs ≤ 100) : isWritable n = true := by
  have hpow : n.natAbs < 10 ^ 3 := by omega
  have hk : 3 ≤ maxDigits := by decide
  exact isWritable_of_lt_pow hpow hk

/-! ## No two are written alike -/

/-- **Digits and what follows them can be told from the text they make**, if that goes on without a
    digit (`NoDigit`). -/
theorem append_toDigits_inj {m n : Nat} {cs ds : List Char} (hc : NoDigit cs) (hd : NoDigit ds)
    (h : Nat.toDigits 10 m ++ cs = Nat.toDigits 10 n ++ ds) : m = n ∧ cs = ds := by
  have hrun := digitRun_append (ascii_toDigits m) hc
  rw [h, digitRun_append (ascii_toDigits n) hd, Prod.mk.injEq] at hrun
  obtain ⟨hvalues, hrest⟩ := hrun
  refine ⟨?_, hrest.symm⟩
  have hvalue := congrArg digitsValue hvalues
  rw [values, values, digitsValue_toDigits, digitsValue_toDigits] at hvalue
  exact hvalue.symm

/-- **No two naturals are written alike** by `natText`. -/
theorem natText_inj {m n : Nat} : natText m = natText n ↔ m = n := by
  refine ⟨fun h => ?_, fun h => h ▸ rfl⟩
  have hlist := congrArg String.toList h
  rw [toList_natText, toList_natText, ← List.append_nil (Nat.toDigits 10 m),
    ← List.append_nil (Nat.toDigits 10 n)] at hlist
  exact (append_toDigits_inj noDigit_nil noDigit_nil hlist).1

end PrinterConsole.Number
