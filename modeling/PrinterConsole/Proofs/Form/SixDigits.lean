/-
  Numbers of six digits in form fields.

  A text of six digits is made of digits, a point, an exponent and signs (`isNumeralChar`), so
  nothing in it is skipped or spoils it when it is read as a number.  What is read is the value
  nearest to the six digits; it is finite, and it has the same six digits again if the first value
  was zero or had all its bits (`isFull`).  Below the least value with all bits the steps may be
  wider than the last of six digits, and a text may be read as a value of another text: `1e-318`
  is read as a value that is written `9.99999e-319`.

  The text is split into `Pieces`, whose worth is known, and reading is an equation about pieces
  (`readDecimal_chars`); the rest is about numbers.  That six digits come back is the inequality
  between the step of the sixth digit and the distance to the nearest value.

  Main statements: the text of a finite value is read as a finite value
  (`exists_finiteNumber_generalText`), and as one with the same text unless the value has lost
  bits (`settled_of_full`).
-/
import PrinterConsole.Form.Value
import PrinterConsole.Proofs.Number.Significant
import PrinterConsole.Proofs.Number.Whole
import PrinterConsole.Proofs.Form.Numeral
import PrinterConsole.Proofs.Text.Split

namespace PrinterConsole.Number

open PrinterConsole.Text

/-! ## The general format

  The layouts are those of the exact format, but a whole number has no point here; the pieces it is
  made of are readable all the same. -/

section Layouts

variable {d : DigitString} (hascii : ∀ c ∈ d.digits, isAsciiDigit c = true)
  (hhead : ∃ c rest, d.digits = c :: rest ∧ c ≠ '0')

include hascii hhead

/-- A number of six digits that needs no point: its digits, filled up with zeros, are `Readable`
    pieces without a fraction. -/
theorem readable_whole (hpoint : 0 < d.point) (hlong : d.digits.length ≤ d.point.toNat) :
    let p : Pieces := ⟨d.digits ++ List.replicate (d.point.toNat - d.digits.length) '0', [], none⟩
    p.Readable ∧ p.value = digitsValue (values d.digits) * 10 ^ (d.point - d.digits.length) := by
  obtain ⟨x, xs, hd, -⟩ := hhead
  refine ⟨⟨?_, List.forall_mem_nil _, ?_⟩, ?_⟩
  · exact List.forall_mem_append.2 ⟨hascii, forall_zeros_ascii _⟩
  · rw [hd]
    exact List.cons_ne_nil _ _
  · rw [Pieces.value, Pieces.digits, Pieces.scale, List.append_nil, values_append,
      values_replicate_zero, digitsValue_append, digitsValue_replicate_zero, List.length_replicate,
      Nat.add_zero, show d.point - d.digits.length =
        ((d.point.toNat - d.digits.length : Nat) : Int) by omega, zpow_natCast]
    push_cast
    exact mul_one _

/-- **The general format writes `Pieces` that are worth the number.** -/
theorem exists_readable_pieces :
    ∃ p : Pieces, p.Readable ∧ (Layout.general.text d).toList = p.chars ∧
      p.value = digitsValue (values d.digits) * 10 ^ (d.point - d.digits.length) := by
  unfold Layout.text
  split
  · split
    · obtain ⟨hvalid, hchars, hvalue⟩ := write_small hascii hhead (by assumption)
      rw [String.toList_append, String.toList_ofList, String.toList_ofList]
      exact ⟨_, hvalid.readable, hchars, hvalue⟩
    · dsimp only
      split
      · obtain ⟨hreadable, hvalue⟩ := readable_whole hascii hhead (by omega) (by assumption)
        refine ⟨_, hreadable, ?_, hvalue⟩
        rw [String.toList_append, String.toList_ofList]
        rfl
      · obtain ⟨hvalid, hchars, hvalue⟩ := write_among hascii hhead (by omega) (by omega)
        rw [String.toList_ofList]
        exact ⟨_, hvalid.readable, hchars, hvalue⟩
  · obtain ⟨x, xs, hd, hvalid, hchars, hvalue⟩ := write_scientific hascii hhead
    refine ⟨_, hvalid.readable, ?_, hvalue⟩
    rw [String.toList_append, String.toList_ofList, hd, ← hchars]
    cases xs <;> rfl

end Layouts

/-! ## Reading

  The reader strips blanks, tries words like infinity, drops underscores and then reads digits.  A
  text that was written for a number is not touched by the first three. -/

/-- A character `c` of a written number. -/
def isNumeralChar (c : Char) : Bool :=
  isAsciiDigit c || c == '.' || c == 'e' || c == '+' || c == '-'

theorem numeralChars_of_ascii {cs : List Char} (h : ∀ c ∈ cs, isAsciiDigit c = true) :
    ∀ c ∈ cs, isNumeralChar c = true := by
  intro c hc
  rw [isNumeralChar, h c hc]
  rfl

theorem numeralChars_signChars (s : Bool) : ∀ c ∈ signChars s, isNumeralChar c = true := by
  cases s with
  | false => exact List.forall_mem_nil _
  | true => exact List.forall_mem_cons.2 ⟨by decide, List.forall_mem_nil _⟩

/-- An exponent is written in characters of a numeral. -/
theorem Pieces.numeralChars_scaled (x : Option Int) :
    ∀ c ∈ scaled x, isNumeralChar c = true := by
  cases x with
  | none => exact List.forall_mem_nil _
  | some x =>
    obtain ⟨ds, hds, hascii, -⟩ := exponentText_eq x
    rw [scaled, hds]
    have hsign : isNumeralChar (if x < 0 then '-' else '+') = true := by
      split <;> decide
    exact List.forall_mem_cons.2
      ⟨by decide, List.forall_mem_cons.2 ⟨hsign, numeralChars_of_ascii hascii⟩⟩

/-- All characters of pieces that can be read are characters of a written number
    (`isNumeralChar`). -/
theorem Pieces.Readable.numeralChars {p : Pieces} (h : p.Readable) :
    ∀ c ∈ p.chars, isNumeralChar c = true := by
  have hpointed : ∀ c ∈ pointed p.fraction, isNumeralChar c = true := by
    have hfraction := numeralChars_of_ascii h.fraction_ascii
    cases hp : p.fraction with
    | nil => exact List.forall_mem_nil _
    | cons d ds =>
      rw [hp] at hfraction
      exact List.forall_mem_cons.2 ⟨by decide, hfraction⟩
  exact List.forall_mem_append.2 ⟨numeralChars_of_ascii h.whole_ascii,
    List.forall_mem_append.2 ⟨hpointed, numeralChars_scaled _⟩⟩

/-- No character of a numeral is blank, hence `stripNumeral` stops at it. -/
theorem isBlank_of_numeralChar {c : Char} (h : isNumeralChar c = true) : isBlank c = false := by
  simp only [isNumeralChar, isAsciiDigit, Bool.or_eq_true, Bool.and_eq_true, decide_eq_true_eq,
    beq_iff_eq] at h
  rcases h with (((h | rfl) | rfl) | rfl) | rfl
  · rw [← Bool.not_eq_true]
    intro hblank
    simp only [isBlank, Bool.or_eq_true, Bool.and_eq_true, decide_eq_true_eq, beq_iff_eq] at hblank
    omega
  all_goals decide

theorem dropWhile_numeralSpace {cs : List Char} (h : ∀ c ∈ cs, isNumeralChar c = true) :
    cs.dropWhile isNumeralSpace = cs := by
  refine dropWhile_of_head fun c more hcs => ?_
  rw [isNumeralSpace, isBlank_of_numeralChar (h c (hcs ▸ List.mem_cons_self))]
  rfl

theorem stripNumeral_of_numeralChars {cs : List Char} (h : ∀ c ∈ cs, isNumeralChar c = true) :
    stripNumeral cs = cs := by
  rw [stripNumeral, dropWhile_numeralSpace h,
    dropWhile_numeralSpace fun c hc => h c (List.mem_reverse.1 hc), List.reverse_reverse]

/-- No character of a written number stands between groups of digits, so `ungroup` takes none
    out. -/
theorem ungroup_of_numeralChars {cs : List Char} (h : ∀ c ∈ cs, isNumeralChar c = true) :
    ungroup cs = some cs := by
  suffices hgo : ∀ afterDigit, ungroup.go afterDigit cs = some cs from hgo false
  induction cs with
  | nil => exact fun _ => rfl
  | cons c cs ih =>
    rw [List.forall_mem_cons] at h
    intro afterDigit
    rw [ungroup.go.eq_def]
    split
    · rename_i heq
      cases heq
    · rename_i heq
      cases heq
      exact absurd h.1 (by decide)
    · rename_i heq
      cases heq
      exact absurd h.1 (by decide)
    · rename_i heq
      cases heq
      rw [ih h.2]
      rfl

/-- A text that begins with a digit is none of the `spelled` numbers, infinity and the like. -/
theorem spelled_of_digit (s : Bool) {c : Char} (hc : isAsciiDigit c = true) (cs : List Char) :
    spelled s (c :: cs) = none := by
  have hlower : c.toLower = c := by
    simp only [isAsciiDigit, Bool.and_eq_true, decide_eq_true_eq] at hc
    refine dif_neg fun hupper => ?_
    have h65 : 65 ≤ c.toNat := UInt32.le_iff_toNat_le.1 hupper.1
    omega
  -- none of the three words begins with a digit
  have hne : ∀ (x : Char) (xs : List Char), isAsciiDigit x = false →
      (String.ofList ((c :: cs).map Char.toLower) == String.ofList (x :: xs)) = false := by
    intro x xs hx
    refine beq_false_of_ne fun heq => ?_
    rw [String.ofList_inj, List.map_cons, hlower, List.cons.injEq] at heq
    rw [heq.1, hx] at hc
    cases hc
  have hinf : (String.ofList ((c :: cs).map Char.toLower) == "inf") = false :=
    hne 'i' ['n', 'f'] (by decide)
  have hinfinity : (String.ofList ((c :: cs).map Char.toLower) == "infinity") = false :=
    hne 'i' ['n', 'f', 'i', 'n', 'i', 't', 'y'] (by decide)
  have hnan : (String.ofList ((c :: cs).map Char.toLower) == "nan") = false :=
    hne 'n' ['a', 'n'] (by decide)
  unfold spelled
  dsimp only
  rw [hinf, hinfinity, hnan]
  rfl

theorem Pieces.Readable.exists_chars_eq_cons {p : Pieces} (h : p.Readable) :
    ∃ c rest, p.chars = c :: rest ∧ isAsciiDigit c = true := by
  obtain ⟨c, rest, hw⟩ := List.exists_cons_of_ne_nil h.whole_ne_nil
  refine ⟨c, rest ++ (pointed p.fraction ++ scaled p.exponent), ?_, h.whole_ascii c (by simp [hw])⟩
  rw [chars, hw]
  rfl

/-- **A sign and pieces are read as what the pieces are worth**: `ofDecimal` of their digits and
    their scale. -/
theorem readDecimal_chars {p : Pieces} (h : p.Readable) (s : Bool) :
    readDecimal (signChars s ++ p.chars) = some (ofDecimal s p.digits p.scale) := by
  have hnumeral : ∀ c ∈ signChars s ++ p.chars, isNumeralChar c = true :=
    List.forall_mem_append.2 ⟨numeralChars_signChars s, h.numeralChars⟩
  obtain ⟨c, rest, hchars, hc⟩ := h.exists_chars_eq_cons
  have hsigned : signed (signChars s ++ p.chars) = (s, p.chars) := by
    cases s with
    | true => rfl
    | false => exact hchars ▸ Form.signed_of_isDigit (isDigit_of_ascii hc) rest
  have hspelled : spelled s p.chars = none := hchars ▸ spelled_of_digit s hc rest
  rw [readDecimal, stripNumeral_of_numeralChars hnumeral, ungroup_of_numeralChars hnumeral]
  simp only [Option.bind_eq_bind, Option.bind_some, hsigned, hspelled, Option.none_or,
    readPositional_chars h]

namespace Binary64

open DigitString

/-! ## Texts of finite values

  Six digits need not tell one number from the next, so reading what was written gives another
  number; but one that is written the same, if the number has all its bits (`isFull`). -/

theorem toList_signText (s : Bool) : (signText s).toList = signChars s := by
  cases s <;> rfl

theorem toList_generalText_zero (s : Bool) {e : Int} (h : IsCanonical 0 e) :
    (finite s 0 e h).generalText.toList = signChars s ++ Pieces.chars ⟨['0'], [], none⟩ := by
  rw [generalText, render, String.toList_append, toList_signText, if_pos rfl]
  rfl

/-- The text of a positive magnitude: its sign, and its six `significant` digits in the general
    layout. -/
theorem toList_generalText (s : Bool) {m : Nat} {e : Int} (h : IsCanonical m e) (hm : 0 < m) :
    (finite s m e h).generalText.toList =
      signChars s ++ (Layout.general.text (significant 6 (ratio m e).1 (ratio m e).2)).toList := by
  rw [generalText, render, String.toList_append, toList_signText, if_neg hm.ne']

theorem zero_readable : Pieces.Readable ⟨['0'], [], none⟩ :=
  ⟨forall_zeros_ascii 1, List.forall_mem_nil _, List.cons_ne_nil _ _⟩

/-- The digits of a positive value are worth more than the least power of ten that is read, and less
    than `tooLarge`. -/
theorem sixDigits_range {m : Nat} {e : Int} (h : IsCanonical m e) (hm : 0 < m) {c : Nat} {q : Int}
    (hc : 10 ^ 5 ≤ c) (hc' : c ≤ 10 ^ 6) (hlow : (10 : ℚ) ^ q * 10 ^ 5 ≤ m * 2 ^ e)
    (hhigh : (m : ℚ) * 2 ^ e < 10 ^ q * 10 ^ 6)
    (hbelow : (2 * (c : ℚ) - 1) * 10 ^ q ≤ 2 * (m * 2 ^ e)) :
    (10 : ℚ) ^ (-330 : Int) < c * 10 ^ q ∧ (c : ℚ) * 10 ^ q < tooLarge := by
  refine ⟨?_, significant_lt_tooLarge h hc' hlow hbelow⟩
  have hpos : (0 : ℚ) < 10 ^ q := zpow_pos (by norm_num) q
  have hcq : (10 ^ 5 : ℚ) ≤ c := by exact_mod_cast hc
  have hleast : (10 : ℚ) ^ (-330 : Int) * 10 < m * 2 ^ e := by
    have hm1 : (1 : ℚ) ≤ m := by exact_mod_cast hm
    have hmono : (2 : ℚ) ^ (-1074 : Int) ≤ 2 ^ e := zpow_le_zpow_right₀ (by norm_num) h.2.1
    have hpow : (2 : ℚ) ^ (1074 : Nat) < 10 ^ (329 : Nat) := by
      have : 2 ^ 1074 < 10 ^ 329 := by decide +kernel
      exact_mod_cast this
    calc (10 : ℚ) ^ (-330 : Int) * 10 = 10 ^ (-329 : Int) :=
          (zpow_add_one₀ (by norm_num) (-330)).symm
      _ < 2 ^ (-1074 : Int) := inv_strictAnti₀ (pow_pos (by norm_num) _) hpow
      _ = 1 * 2 ^ (-1074 : Int) := (one_mul _).symm
      _ ≤ m * 2 ^ e := mul_le_mul hm1 hmono (zpow_pos (by norm_num) _).le (Nat.cast_nonneg m)
  have := mul_le_mul_of_nonneg_right hcq hpos.le
  generalize (10 : ℚ) ^ (-330 : Int) = least at *
  linarith only [this, hleast, hhigh]

/-- **The text of a positive magnitude (`generalText`) is read as a finite value** of the same sign,
    and as one with the same text if the magnitude has all its bits. -/
theorem exists_read_generalText (s : Bool) {m : Nat} {e : Int} (h : IsCanonical m e) (hm : 0 < m) :
    ∃ y, Form.finiteNumber (finite s m e h).generalText = some y ∧ y.isFinite = true ∧
      (2 ^ 52 ≤ m → y.generalText = (finite s m e h).generalText) := by
  obtain ⟨c, q, hsix, hc, hc', hlow, hhigh, hbelow, -⟩ :=
    significant_six (ratio_fst_pos hm e) (ratio_pos m e)
  rw [ratio_eq] at hlow hhigh hbelow
  obtain ⟨hascii, hhead, hworth⟩ := ofScaled_spec (c := c) (by omega) q
  obtain ⟨p, hp, hchars, hvalue⟩ := exists_readable_pieces hascii hhead
  obtain ⟨hleast, hlarge⟩ := sixDigits_range h hm hc hc' hlow hhigh hbelow
  have hdecimal : (digitsValue p.digits : ℚ) * 10 ^ p.scale = c * 10 ^ q := hvalue.trans hworth
  -- rounded to six digits the number is still finite, so that it is read as it is written
  have hrange : (c : ℚ) * 10 ^ q < 10 ^ (310 : Int) :=
    (hlarge.trans tooLarge_bounds.2.1).trans (zpow_lt_zpow_right₀ (by norm_num) (by decide))
  rw [← hdecimal] at hleast hrange
  have hdigits : ∀ d ∈ p.digits, d < 10 := values_lt
  obtain ⟨num, den, hden, hratio, hread⟩ := ofDecimal_eq_ofRatio hdigits hleast hrange
  rw [hdecimal] at hratio
  have hfinite : (ofRatio s num den).isFinite = true :=
    (isFinite_ofRatio_iff s num hden).2 (hratio ▸ hlarge)
  refine ⟨ofRatio s num den, ?_, hfinite, fun hfull => ?_⟩
  · rw [Form.finiteNumber, toList_generalText s h hm, hsix, hchars, readDecimal_chars hp, hread,
      Option.bind_some, finite?, if_pos hfinite]
  · cases hy : ofRatio s num den with
    | infinite t =>
      rw [hy] at hfinite
      cases hfinite
    | nan =>
      rw [hy] at hfinite
      cases hfinite
    | finite t m' e' h' =>
      obtain ⟨rfl, hm', hsame⟩ := significant_ofRatio h hfull hden hratio hc hc' hhigh hy
      rw [← String.toList_inj, toList_generalText t h' hm', toList_generalText t h hm, hsix, hsame]

theorem read_generalText_zero (s : Bool) {e : Int} (h : IsCanonical 0 e) :
    Form.finiteNumber (finite s 0 e h).generalText = some (finite s 0 e h) := by
  obtain rfl : e = -1074 := h.2.2.2.resolve_left (by decide)
  have hdigits : ∀ d ∈ Pieces.digits ⟨['0'], [], none⟩, d = 0 := by decide
  rw [Form.finiteNumber, toList_generalText_zero, readDecimal_chars zero_readable,
    ofDecimal_of_zero s hdigits _ h]
  rfl

/-- **The text of a finite value is read as a finite value**, by `Form.finiteNumber`. -/
theorem exists_finiteNumber_generalText {x : Binary64} (hx : x.isFinite = true) :
    ∃ y, Form.finiteNumber x.generalText = some y ∧ y.isFinite = true := by
  cases x with
  | infinite s => cases hx
  | nan => cases hx
  | finite s m e h =>
    rcases Nat.eq_zero_or_pos m with rfl | hm
    · exact ⟨_, read_generalText_zero s h, rfl⟩
    · obtain ⟨y, hy, hfinite, -⟩ := exists_read_generalText s h hm
      exact ⟨y, hy, hfinite⟩

/-- A `text` that is read as a number of the same text, so that reading and writing it once more
    changes nothing. -/
def Settled (text : String) : Prop := (Form.finiteNumber text).map generalText = some text

instance (text : String) : Decidable (Settled text) :=
  inferInstanceAs (Decidable (_ = _))

/-- Zero, or a value with all its bits, so that `2 ^ 52 ≤ m`. -/
def isFull : Binary64 → Bool
  | finite _ m _ _ => m == 0 || 2 ^ 52 ≤ m
  | _ => false

theorem isFinite_of_full {x : Binary64} (hx : x.isFull = true) : x.isFinite = true := by
  cases x with
  | finite => rfl
  | infinite => cases hx
  | nan => cases hx

/-- **The text of a value with all its bits is read as a value of the same text**:
    `exists_read_generalText`, and zero by itself. -/
theorem settled_of_full {x : Binary64} (hx : x.isFull = true) : Settled x.generalText := by
  cases x with
  | infinite s => cases hx
  | nan => cases hx
  | finite s m e h =>
    rcases Nat.eq_zero_or_pos m with rfl | hm
    · rw [Settled, read_generalText_zero, Option.map_some]
    · have hfull : 2 ^ 52 ≤ m := by
        simpa [isFull, hm.ne'] using hx
      obtain ⟨y, hy, -, hsame⟩ := exists_read_generalText s h hm
      rw [Settled, hy, Option.map_some, hsame hfull]

-- the value that is read lies between two texts of six digits
example : ¬ Settled "1e-318" := by decide +kernel

/-- Every character of `generalText` may stand in a numeral, so nothing of it is stripped before it
    is read. -/
theorem numeralChars_generalText {x : Binary64} (hx : x.isFinite = true) :
    x.generalText.toList ≠ [] ∧ ∀ c ∈ x.generalText.toList, isNumeralChar c = true := by
  have hpieces : ∀ {s : Bool} {p : Pieces}, p.Readable →
      signChars s ++ p.chars ≠ [] ∧ ∀ c ∈ signChars s ++ p.chars, isNumeralChar c = true := by
    intro s p hp
    obtain ⟨c, rest, hchars, -⟩ := hp.exists_chars_eq_cons
    refine ⟨?_, List.forall_mem_append.2 ⟨numeralChars_signChars s, hp.numeralChars⟩⟩
    rw [hchars]
    exact List.append_ne_nil_of_right_ne_nil _ (List.cons_ne_nil _ _)
  cases x with
  | infinite s => cases hx
  | nan => cases hx
  | finite s m e h =>
    rcases Nat.eq_zero_or_pos m with rfl | hm
    · rw [toList_generalText_zero]
      exact hpieces zero_readable
    · obtain ⟨c, q, hsix, hc, -⟩ := significant_six (ratio_fst_pos hm e) (ratio_pos m e)
      obtain ⟨hascii, hhead, -⟩ := ofScaled_spec (c := c) (by omega) q
      obtain ⟨p, hp, hchars, -⟩ := exists_readable_pieces hascii hhead
      rw [toList_generalText s h hm, hsix, hchars]
      exact hpieces hp

end Binary64

end PrinterConsole.Number
