/-
  Written numbers are read back.

  A number ends where a comma, a new line or the end of the text comes next (`Ends`): nothing of
  these goes on with a whole part, a fraction or an exponent.  Each part of a number is therefore
  taken off the front as it was written, in the order whole part, fraction, exponent, and what it
  was written from is known from its `Pieces`.

  Main statements: a written whole number is read as itself (`readScalar_intText`), and so is a
  written number that is not whole (`readScalar_floatText`).
-/
import PrinterConsole.Json.Reader
import PrinterConsole.Json.Writer
import PrinterConsole.Proofs.Number.Whole

namespace PrinterConsole.Json

open PrinterConsole.Number PrinterConsole.Text

/-- A written value ends here: the text `rest` is what goes on with a comma or a new line, if at
    all. -/
def Ends (rest : List Char) : Prop := ∀ c ∈ rest.head?, c = ',' ∨ c = '\n'

theorem ends_nil : Ends [] := by
  intro c hc
  cases hc

theorem Ends.noDigit {rest : List Char} (h : Ends rest) : NoDigit rest := by
  intro c hc
  rcases h c hc with rfl | rfl <;> decide

/-! ## Parts of a number

  A number has at most three parts, and each is read as far as it goes.  What follows a number
  (`Ends`) begins with none of the characters that would go on with one. -/

/-- A whole part is taken off the front by `wholePart`, if it is a single zero or begins with
    another digit, and no digit follows. -/
theorem wholePart_append {whole rest : List Char} (hw : ∀ c ∈ whole, isAsciiDigit c = true)
    (hhead : whole = ['0'] ∨ ∃ c more, whole = c :: more ∧ c ≠ '0') (hr : NoDigit rest) :
    wholePart (whole ++ rest) = (whole, rest) := by
  rcases hhead with rfl | ⟨c, more, rfl, hc⟩
  · rfl
  · obtain ⟨ht, hd⟩ := takeWhile_append_of_noDigit (fun _ h => isDigit_of_ascii h) hw hr
    rw [wholePart.eq_def]
    split
    · rename_i heq
      cases heq
      exact absurd rfl hc
    · rw [ht, hd]

theorem fractionPart_of_ne {rest : List Char} (h : rest.head? ≠ some '.') :
    fractionPart rest = ([], rest) := by
  rw [fractionPart.eq_def]
  split
  · exact absurd rfl h
  · rfl

/-- A fraction is taken off the front by `fractionPart` with its point; an empty one is written
    without a point. -/
theorem fractionPart_pointed {ds rest : List Char} (hd : ∀ c ∈ ds, isAsciiDigit c = true)
    (hr : NoDigit rest) (hpoint : rest.head? ≠ some '.') :
    fractionPart (Pieces.pointed ds ++ rest) = (Pieces.pointed ds, rest) := by
  cases ds with
  | nil => exact fractionPart_of_ne hpoint
  | cons d ds =>
    obtain ⟨ht, hdr⟩ := takeWhile_append_of_noDigit (fun _ h => isDigit_of_ascii h) hd hr
    show fractionPart ('.' :: (d :: ds ++ rest)) = _
    rw [fractionPart, ht, hdr]
    rfl

theorem exponentText_of_ends {rest : List Char} (h : Ends rest) :
    exponentText rest = ([], rest) := by
  cases rest with
  | nil => rfl
  | cons c rest => rcases h c rfl with rfl | rfl <;> rfl

/-- An exponent is taken off the front by `exponentText` with its letter and sign. -/
theorem exponentText_scaled (x : Option Int) {rest : List Char} (hr : Ends rest) :
    exponentText (Pieces.scaled x ++ rest) = (Pieces.scaled x, rest) := by
  cases x with
  | none => exact exponentText_of_ends hr
  | some x =>
    obtain ⟨ds, hds, hascii, hne, -⟩ := exponentText_eq x
    obtain ⟨ht, hdr⟩ :=
      takeWhile_append_of_noDigit (fun _ h => isDigit_of_ascii h) hascii hr.noDigit
    obtain ⟨d, more, rfl⟩ := List.exists_cons_of_ne_nil hne
    rw [List.cons_append] at ht hdr
    rw [Pieces.scaled, hds]
    by_cases hx : x < 0
    · rw [if_pos hx]
      show exponentText ('e' :: '-' :: d :: (more ++ rest)) = _
      simp [exponentText, ht, hdr]
    · rw [if_neg hx]
      show exponentText ('e' :: '+' :: d :: (more ++ rest)) = _
      simp [exponentText, ht, hdr]

/-- Behind digits that have no fraction stands no point, so none is read. -/
theorem head?_scaled_ne (x : Option Int) {rest : List Char} (hr : Ends rest) :
    (Pieces.scaled x ++ rest).head? ≠ some '.' := by
  cases x with
  | none =>
    intro h
    rcases hr '.' h with h | h <;> cases h
  | some x =>
    obtain ⟨ds, hds, -⟩ := exponentText_eq x
    rw [Pieces.scaled, hds, List.cons_append, List.head?_cons]
    decide

/-! ## Numbers after their sign

  A whole number and a float differ in that only the first has neither fraction nor exponent. -/

/-- **`Pieces` that are put together are read as a number that is not whole.** -/
theorem readNumber_chars {p : Pieces} (hp : p.Valid) (negative : Bool) {rest : List Char}
    (hr : Ends rest) :
    readNumber negative (p.chars ++ rest) =
      .ok (.float (ofDecimal negative p.digits p.scale), rest) := by
  -- a number that is not whole has a fraction or an exponent
  have hpart :
      ((Pieces.pointed p.fraction).isEmpty && (Pieces.scaled p.exponent).isEmpty) = false := by
    rcases hp.not_whole with hf | he
    · rw [Pieces.pointed_of_ne_nil hf]
      rfl
    · obtain ⟨x, hx⟩ := Option.isSome_iff_exists.1 he
      obtain ⟨ds, hds, -⟩ := exponentText_eq x
      rw [hx, Pieces.scaled, hds, List.isEmpty_cons, Bool.and_false]
  have hscaled : NoDigit (Pieces.scaled p.exponent ++ rest) := noDigit_scaled _ hr.noDigit
  have hwhole := wholePart_append hp.whole_ascii hp.whole_head
    (noDigit_pointed p.fraction hscaled)
  have hfraction := fractionPart_pointed hp.fraction_ascii hscaled (head?_scaled_ne _ hr)
  have hchars : p.whole ++ Pieces.pointed p.fraction ++ Pieces.scaled p.exponent = p.chars :=
    List.append_assoc _ _ _
  rw [readNumber, Pieces.chars, List.append_assoc, List.append_assoc, hwhole]
  simp only [List.isEmpty_eq_false_iff.2 hp.readable.whole_ne_nil, hfraction,
    exponentText_scaled _ hr, hpart, hchars, readPositional_chars hp.readable]
  rfl

theorem whole_head_toDigits (n : Nat) :
    Nat.toDigits 10 n = ['0'] ∨ ∃ c more, Nat.toDigits 10 n = c :: more ∧ c ≠ '0' := by
  rcases Nat.eq_zero_or_pos n with rfl | hn
  · exact .inl rfl
  · obtain ⟨c, more, hds, -, hc⟩ := exists_toDigits_eq_cons hn
    exact .inr ⟨c, more, hds, hc⟩

/-- **The digits of a number are read as the number** by `readNumber`. -/
theorem readNumber_toDigits {n : Nat} (hn : (Nat.toDigits 10 n).length ≤ maxDigits)
    (negative : Bool) {rest : List Char} (hr : Ends rest) :
    readNumber negative (Nat.toDigits 10 n ++ rest) =
      .ok (.int (if negative then -(n : Int) else n), rest) := by
  have hascii : ∀ c ∈ Nat.toDigits 10 n, isAsciiDigit c = true :=
    fun c hc => isAsciiDigit_of_mem_toDigits hc
  have hlength : ((Nat.toDigits 10 n).filterMap digitValue?).length = (Nat.toDigits 10 n).length :=
    length_values hascii
  have hpos : 0 < (Nat.toDigits 10 n).length := Nat.length_toDigits_pos
  have hwhole : wholeOf negative ((Nat.toDigits 10 n).filterMap digitValue?) =
      some (if negative then -(n : Int) else n) := by
    rw [wholeOf, digitsValue_toDigits, if_neg]
    simp only [Bool.or_eq_true, List.isEmpty_iff, decide_eq_true_eq, ← List.length_eq_zero_iff]
    omega
  have hpoint : rest.head? ≠ some '.' := head?_scaled_ne none hr
  rw [readNumber, wholePart_append hascii (whole_head_toDigits n) hr.noDigit]
  simp only [List.isEmpty_eq_false_iff.2 Nat.toDigits_ne_nil, fractionPart_of_ne hpoint,
    exponentText_of_ends hr, hwhole]
  rfl

/-! ## Numbers

  The sign is taken off first; only then is it seen whether a number follows, or the word for
  infinity. -/

/-- No word begins with a digit: a number is read. -/
theorem readScalar_digit {c : Char} (hc : isAsciiDigit c = true) (cs : List Char) :
    readScalar (c :: cs) = readNumber false (c :: cs) := by
  rw [readScalar.eq_def]
  split
  case h_8 => rfl
  all_goals
    rename_i heq
    cases heq
    exact absurd hc (by decide)

/-- A minus in front of a digit is read as the sign of a number, not as the word for infinity. -/
theorem readScalar_minus {c : Char} (hc : isAsciiDigit c = true) (cs : List Char) :
    readScalar ('-' :: c :: cs) = readNumber true (c :: cs) := by
  rw [readScalar.eq_def]
  split
  case h_6 heq =>
    -- the only word behind a minus sign starts with a letter
    cases heq
    exact absurd hc (by decide)
  case h_7 heq =>
    cases heq
    rfl
  case h_8 hminus => exact (hminus _ rfl).elim
  all_goals
    rename_i heq
    cases heq

/-- For `readScalar` a sign and a digit start a number. -/
theorem readScalar_signed (negative : Bool) {c : Char} (hc : isAsciiDigit c = true)
    (cs : List Char) :
    readScalar (signChars negative ++ c :: cs) = readNumber negative (c :: cs) := by
  cases negative with
  | false => exact readScalar_digit hc cs
  | true => exact readScalar_minus hc cs

/-- **A written whole number (`intText`) is read as itself.** -/
theorem readScalar_intText {n : Int} (hn : isWritable n = true) {rest : List Char}
    (hr : Ends rest) : readScalar ((intText n).toList ++ rest) = .ok (.int n, rest) := by
  have hnumber := readNumber_toDigits (length_toDigits_le hn) (decide (n < 0)) hr
  obtain ⟨c, more, hds, hc⟩ := exists_toDigits_cons n.natAbs
  rw [toList_intText, List.append_assoc, hds, List.cons_append, readScalar_signed _ hc,
    ← List.cons_append, ← hds, hnumber]
  split
  · rename_i hneg
    have hneg' : n < 0 := of_decide_eq_true hneg
    rw [show -(n.natAbs : Int) = n by omega]
  · rename_i hpos
    have hpos' : ¬n < 0 := by simpa using hpos
    rw [show (n.natAbs : Int) = n by omega]

/-- **A written number that is not whole (`floatText`) is read as itself.** -/
theorem readScalar_floatText (x : Binary64) {rest : List Char} (hr : Ends rest) :
    readScalar ((floatText x).toList ++ rest) = .ok (.float x, rest) := by
  cases x with
  | nan => rfl
  | infinite s => cases s <;> rfl
  | finite s m e h =>
    obtain ⟨p, hp, htext, hvalue⟩ := exists_exactText_eq s h
    obtain ⟨c, more, hchars, hc⟩ := hp.exists_chars_eq_cons
    have hnumber := readNumber_chars hp s hr
    rw [hvalue, hchars] at hnumber
    change (Binary64.finite s m e h).exactText.toList = signChars s ++ p.chars at htext
    show readScalar ((Binary64.finite s m e h).exactText.toList ++ rest) = _
    rw [htext, hchars, List.append_assoc, List.cons_append, readScalar_signed s hc, ← hnumber]
    rfl

/-! ## How numbers start

  By its first character a number is told from a string, a list and an object. -/

/-- A character `c` that can start a number or a word, which tells them from texts, lists and
    objects. -/
def isWordStart (c : Char) : Bool :=
  !isSpace c && c != ']' && c != '"' && c != '[' && c != '\x7b'

theorem isWordStart_of_digit {c : Char} (hc : isAsciiDigit c = true) : isWordStart c = true := by
  by_contra h
  simp only [isWordStart, isSpace, Bool.and_eq_true, Bool.not_eq_true', Bool.or_eq_false_iff,
    bne_iff_ne, beq_eq_false_iff_ne, not_and_or, not_not] at h
  rcases h with (((((((rfl | rfl) | rfl) | rfl) | rfl) | rfl) | rfl) | rfl)
  all_goals exact absurd hc (by decide)

theorem exists_signed_eq_cons (negative : Bool) {c : Char} (hc : isAsciiDigit c = true)
    (cs : List Char) :
    ∃ d more, signChars negative ++ c :: cs = d :: more ∧ isWordStart d = true := by
  cases negative with
  | false => exact ⟨c, cs, rfl, isWordStart_of_digit hc⟩
  | true => exact ⟨'-', c :: cs, rfl, by decide⟩

theorem exists_intText_eq_cons (n : Int) :
    ∃ c more, (intText n).toList = c :: more ∧ isWordStart c = true := by
  obtain ⟨c, more, hds, hc⟩ := exists_toDigits_cons n.natAbs
  rw [toList_intText, hds]
  exact exists_signed_eq_cons _ hc more

/-- The text of a float, the words for infinity included, begins as numbers and words do
    (`isWordStart`). -/
theorem exists_floatText_eq_cons (x : Binary64) :
    ∃ c more, (floatText x).toList = c :: more ∧ isWordStart c = true := by
  cases x with
  | nan => exact ⟨_, _, rfl, by decide⟩
  | infinite s => cases s <;> exact ⟨_, _, rfl, by decide⟩
  | finite s m e h =>
    obtain ⟨p, hp, htext, -⟩ := exists_exactText_eq s h
    obtain ⟨c, more, hchars, hc⟩ := hp.exists_chars_eq_cons
    change (floatText (.finite s m e h)).toList = signChars s ++ p.chars at htext
    rw [htext, hchars]
    exact exists_signed_eq_cons s hc more

end PrinterConsole.Json
