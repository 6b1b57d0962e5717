/-
  Written decimal numbers.

  Every format writes a whole part, perhaps a point and a fraction, and perhaps an exponent; a
  reader takes the same parts apart again.  `Pieces` are these parts, `Pieces.chars` puts them
  together, and what they are worth does not depend on where the point stands.

  The exact format has four layouts: the point in front of the digits (`write_small`), behind them
  (`write_whole`) or among them (`write_among`), and an exponent (`write_scientific`).  In each of
  them the pieces are worth the number of the digits and the point (`Pieces.Write`).

  Main statements: the exact format writes pieces that are worth the number (`exists_pieces`), and
  pieces that are put together are read as what they are worth (`readPositional_chars`).
-/
import PrinterConsole.Number.Printed
import PrinterConsole.Proofs.Number.Decimal
import PrinterConsole.Proofs.Number.Shortest

namespace PrinterConsole.Number

open PrinterConsole.Text

/-! ## Runs of digits

  The reader takes digits off the front as far as they go.  A run that is followed by no digit
  (`NoDigit`) is thus taken whole, with the rest left as it is. -/

/-- The text `cs` does not go on with a digit. -/
def NoDigit (cs : List Char) : Prop := ∀ c ∈ cs.head?, isDigit c = false

theorem noDigit_nil : NoDigit [] := by
  intro c hc
  cases hc

theorem noDigit_cons {c : Char} (h : isDigit c = false) (cs : List Char) : NoDigit (c :: cs) := by
  rintro d ⟨⟩
  exact h

/-- A run of digits ends where no digit follows, for every notion `p` of digit between the two. -/
theorem takeWhile_append_of_noDigit {p : Char → Bool} (hp : ∀ c, p c = true → isDigit c = true)
    {ds rest : List Char} (hd : ∀ c ∈ ds, p c = true) (hr : NoDigit rest) :
    (ds ++ rest).takeWhile p = ds ∧ (ds ++ rest).dropWhile p = rest := by
  have hstop : rest.takeWhile p = [] ∧ rest.dropWhile p = rest := by
    cases rest with
    | nil => exact ⟨rfl, rfl⟩
    | cons c cs =>
      have hc : p c = false := by
        rw [← Bool.not_eq_true]
        exact fun h => absurd (hp c h) (by rw [hr c rfl]; decide)
      exact ⟨List.takeWhile_cons_of_neg (by simp [hc]), List.dropWhile_cons_of_neg (by simp [hc])⟩
  rw [List.takeWhile_append_of_pos hd, List.dropWhile_append_of_pos hd, hstop.1, hstop.2,
    List.append_nil]
  exact ⟨rfl, rfl⟩

/-- The digit values of the ASCII digits `cs`. -/
def values (cs : List Char) : List Nat := cs.filterMap digitValue?

theorem values_append (cs ds : List Char) : values (cs ++ ds) = values cs ++ values ds :=
  List.filterMap_append

theorem length_values {cs : List Char} (h : ∀ c ∈ cs, isAsciiDigit c = true) :
    (values cs).length = cs.length := by
  rw [values, filterMap_digitValue? h, List.length_map]

theorem values_lt {cs : List Char} : ∀ d ∈ values cs, d < 10 := by
  intro d hd
  obtain ⟨c, -, hc⟩ := List.mem_filterMap.1 hd
  exact digitValue?_lt hc

theorem values_replicate_zero (n : Nat) : values (List.replicate n '0') = List.replicate n 0 := by
  rw [values, List.filterMap_replicate_of_some (b := 0) (by decide)]

theorem digitRun_append {ds rest : List Char} (hd : ∀ c ∈ ds, isAsciiDigit c = true)
    (hr : NoDigit rest) : digitRun (ds ++ rest) = (values ds, rest) := by
  obtain ⟨ht, hdr⟩ := takeWhile_append_of_noDigit (p := isDigit) (fun _ h => h)
    (fun c hc => isDigit_of_ascii (hd c hc)) hr
  rw [digitRun, ht, hdr]
  rfl

/-! ## Pieces

  What is written has a whole part, a fraction and an exponent, of which some are missing in each
  format.  `Pieces` are these parts, `chars` puts them together, and `value` says what number they
  are. -/

/-- The parts of a written decimal number: `whole`, `fraction` and `exponent`, of which the last two
    may be missing. -/
structure Pieces where
  whole : List Char
  fraction : List Char
  exponent : Option Int

namespace Pieces

/-- The fraction `ds` with its point, if there is one. -/
def pointed : List Char → List Char
  | [] => []
  | ds => '.' :: ds

/-- The exponent `x` with its sign, if there is one. -/
def scaled : Option Int → List Char
  | none => []
  | some x => (Layout.exponentText x).toList

/-- The parts put together: `whole`, then `pointed` and `scaled`. -/
def chars (p : Pieces) : List Char := p.whole ++ (pointed p.fraction ++ scaled p.exponent)

/-- The digits of the number, and below the exponent `scale` that goes with them. -/
def digits (p : Pieces) : List Nat := values (p.whole ++ p.fraction)
def scale (p : Pieces) : Int := p.exponent.getD 0 - p.fraction.length

/-- What the parts are worth: `digits` at the exponent `scale`. -/
def value (p : Pieces) : ℚ := digitsValue p.digits * 10 ^ p.scale

/-- The parts of `p` are digits, and there is a whole part. -/
structure Readable (p : Pieces) : Prop where
  whole_ascii : ∀ c ∈ p.whole, isAsciiDigit c = true
  fraction_ascii : ∀ c ∈ p.fraction, isAsciiDigit c = true
  whole_ne_nil : p.whole ≠ []

/-- The parts of `p` are digits, the whole part starts with a zero only if it is nothing else, and
    the number is not written as a whole one. -/
structure Valid (p : Pieces) : Prop where
  whole_ascii : ∀ c ∈ p.whole, isAsciiDigit c = true
  fraction_ascii : ∀ c ∈ p.fraction, isAsciiDigit c = true
  whole_head : p.whole = ['0'] ∨ ∃ c rest, p.whole = c :: rest ∧ c ≠ '0'
  not_whole : p.fraction ≠ [] ∨ p.exponent.isSome = true

theorem Valid.exists_whole_eq_cons {p : Pieces} (h : p.Valid) :
    ∃ c rest, p.whole = c :: rest ∧ isAsciiDigit c = true := by
  rcases h.whole_head with hw | ⟨c, rest, hw, -⟩
  · exact ⟨_, _, hw, by decide⟩
  · exact ⟨c, rest, hw, h.whole_ascii c (by rw [hw]; exact List.mem_cons_self)⟩

theorem Valid.exists_chars_eq_cons {p : Pieces} (h : p.Valid) :
    ∃ c rest, p.chars = c :: rest ∧ isAsciiDigit c = true := by
  obtain ⟨c, rest, hw, hc⟩ := h.exists_whole_eq_cons
  refine ⟨c, rest ++ (pointed p.fraction ++ scaled p.exponent), ?_, hc⟩
  rw [chars, hw]
  rfl

theorem Valid.readable {p : Pieces} (h : p.Valid) : p.Readable := by
  obtain ⟨c, rest, hw, -⟩ := h.exists_whole_eq_cons
  refine ⟨h.whole_ascii, h.fraction_ascii, ?_⟩
  rw [hw]
  exact List.cons_ne_nil _ _

end Pieces

/-- The text of an exponent `x`: a sign and digits. -/
theorem exponentText_eq (x : Int) :
    ∃ ds, (Layout.exponentText x).toList = 'e' :: (if x < 0 then '-' else '+') :: ds ∧
      (∀ c ∈ ds, isAsciiDigit c = true) ∧ ds ≠ [] ∧ digitsValue (values ds) = x.natAbs := by
  have hascii : ∀ c ∈ Nat.toDigits 10 x.natAbs, isAsciiDigit c = true :=
    fun c hc => isAsciiDigit_of_mem_toDigits hc
  have hvalue : digitsValue (values (Nat.toDigits 10 x.natAbs)) = x.natAbs :=
    digitsValue_toDigits x.natAbs
  have hne : Nat.toDigits 10 x.natAbs ≠ [] := Nat.toDigits_ne_nil
  have hsign : (if x < 0 then "e-" else "e+").toList = ['e', if x < 0 then '-' else '+'] := by
    split <;> rfl
  unfold Layout.exponentText
  dsimp only
  rw [String.toList_append, hsign]
  by_cases hlen : (natText x.natAbs).length < 2
  · refine ⟨'0' :: Nat.toDigits 10 x.natAbs, ?_, ?_, List.cons_ne_nil _ _, ?_⟩
    · rw [if_pos hlen, String.toList_append, natText]
      simp
    · exact List.forall_mem_cons.2 ⟨by decide, hascii⟩
    · rw [values, List.filterMap_cons_some (b := 0) (by decide), digitsValue_cons, Nat.zero_mul,
        Nat.zero_add]
      exact hvalue
  · refine ⟨Nat.toDigits 10 x.natAbs, ?_, hascii, hne, hvalue⟩
    rw [if_neg hlen, natText, String.toList_ofList]
    rfl

/-! ## Reading pieces

  The reader goes through the pieces in the order in which they are written, and none of them runs
  into the next one. -/

/-- Behind the last digit, an exponent or what follows begins with no digit. -/
theorem noDigit_scaled (x : Option Int) {rest : List Char} (hr : NoDigit rest) :
    NoDigit (Pieces.scaled x ++ rest) := by
  cases x with
  | none => exact hr
  | some x =>
    obtain ⟨ds, hds, -⟩ := exponentText_eq x
    rw [Pieces.scaled, hds]
    exact noDigit_cons (by decide) _

theorem noDigit_pointed (ds : List Char) {rest : List Char} (hr : NoDigit rest) :
    NoDigit (Pieces.pointed ds ++ rest) := by
  cases ds with
  | nil => exact hr
  | cons d ds => exact noDigit_cons (by decide) _

/-- `exponentPart` reads back the exponent that `Pieces.scaled` wrote, or zero where there is
    none. -/
theorem exponentPart_scaled (x : Option Int) :
    exponentPart (Pieces.scaled x) = (x.getD 0, []) := by
  cases x with
  | none => rfl
  | some x =>
    obtain ⟨ds, hds, hascii, hne, hvalue⟩ := exponentText_eq x
    have hrun : digitRun ds = (values ds, []) := by
      have := digitRun_append hascii noDigit_nil
      rwa [List.append_nil] at this
    have hvalues : values ds ≠ [] := by
      rw [← List.length_pos_iff, length_values hascii]
      exact List.length_pos_iff.2 hne
    obtain ⟨v, vs, hv⟩ := List.exists_cons_of_ne_nil hvalues
    rw [Pieces.scaled, hds]
    by_cases hx : x < 0
    · simp only [exponentPart, signed, hx, if_true, hrun, hv]
      rw [← hv, hvalue, show -(x.natAbs : Int) = x by omega]
      rfl
    · simp only [exponentPart, signed, hx, if_false, hrun, hv]
      rw [← hv, hvalue, show (x.natAbs : Int) = x by omega]
      rfl

/-- `fractionRun` reads back the digits behind the point and stops at the exponent. -/
theorem fractionRun_pointed {ds : List Char} (hd : ∀ c ∈ ds, isAsciiDigit c = true)
    (x : Option Int) :
    fractionRun (Pieces.pointed ds ++ Pieces.scaled x) = (values ds, Pieces.scaled x) := by
  have hscaled : NoDigit (Pieces.scaled x) := by
    have := noDigit_scaled x noDigit_nil
    rwa [List.append_nil] at this
  cases ds with
  | cons d ds => exact digitRun_append hd hscaled
  | nil =>
    -- without a fraction an exponent follows, which starts with a letter, or nothing
    cases x with
    | none => rfl
    | some x =>
      obtain ⟨ds, hds, -⟩ := exponentText_eq x
      rw [Pieces.scaled, hds]
      rfl

/-- **Pieces that are put together are read as what they are worth**: `readPositional` finds the
    parts again that `Pieces.chars` put together. -/
theorem readPositional_chars {p : Pieces} (h : p.Readable) (negative : Bool) :
    readPositional negative p.chars = some (ofDecimal negative p.digits p.scale) := by
  have hvalues : (values p.whole).isEmpty = false := by
    rw [List.isEmpty_eq_false_iff, ← List.length_pos_iff, length_values h.whole_ascii]
    exact List.length_pos_iff.2 h.whole_ne_nil
  have hscaled : NoDigit (Pieces.scaled p.exponent) := by
    have := noDigit_scaled p.exponent noDigit_nil
    rwa [List.append_nil] at this
  have hwhole := digitRun_append h.whole_ascii (noDigit_pointed p.fraction hscaled)
  have hdigits : p.digits = values p.whole ++ values p.fraction := values_append _ _
  have hscale : p.scale = p.exponent.getD 0 - (values p.fraction).length := by
    rw [length_values h.fraction_ascii]
    rfl
  unfold readPositional
  rw [Pieces.chars, hwhole, hdigits, hscale]
  simp only [fractionRun_pointed h.fraction_ascii, exponentPart_scaled, hvalues]
  rfl

/-! ## The exact format

  Where the point stands among the digits decides on the layout: there are four, and in each of them
  the pieces have the value of the digits. -/

/-- The digits of `ofScaled` have no zeros at the end, and `k` of them were dropped. -/
theorem ofScaled_digits {c : Nat} (hc : 0 < c) (q : Int) :
    ∃ k, Nat.toDigits 10 c = (DigitString.ofScaled c q).digits ++ List.replicate k '0' ∧
      (DigitString.ofScaled c q).point = (DigitString.ofScaled c q).digits.length + k + q := by
  set ds := Nat.toDigits 10 c with hds
  have hdef : DigitString.ofScaled c q =
      ⟨(ds.reverse.dropWhile (· == '0')).reverse, ds.length + q⟩ := by
    rw [DigitString.ofScaled, if_neg hc.ne']
  have hzeros : ds.reverse.takeWhile (· == '0') =
      List.replicate (ds.reverse.takeWhile (· == '0')).length '0' := by
    rw [List.eq_replicate_iff]
    refine ⟨rfl, fun c hc => ?_⟩
    simpa using List.mem_takeWhile_imp hc
  have hsplit : ds = (ds.reverse.dropWhile (· == '0')).reverse ++
      List.replicate (ds.reverse.takeWhile (· == '0')).length '0' := by
    rw [← List.reverse_replicate, ← hzeros, ← List.reverse_append, List.takeWhile_append_dropWhile,
      List.reverse_reverse]
  rw [hdef]
  refine ⟨(ds.reverse.takeWhile (· == '0')).length, hsplit, ?_⟩
  have hlength := congrArg List.length hsplit
  rw [List.length_append, List.length_replicate] at hlength
  show (ds.length : Int) + q = _
  rw [hlength]
  push_cast
  rfl

/-- What the digits of a positive decimal number are: ASCII digits that do not start with a zero,
    and with the `point` they are worth the number. -/
theorem ofScaled_spec {c : Nat} (hc : 0 < c) (q : Int) :
    (∀ d ∈ (DigitString.ofScaled c q).digits, isAsciiDigit d = true) ∧
    (∃ d rest, (DigitString.ofScaled c q).digits = d :: rest ∧ d ≠ '0') ∧
    (digitsValue (values (DigitString.ofScaled c q).digits) : ℚ) *
        10 ^ ((DigitString.ofScaled c q).point - (DigitString.ofScaled c q).digits.length) =
      c * 10 ^ q := by
  obtain ⟨k, hsplit, hpoint⟩ := ofScaled_digits hc q
  generalize DigitString.ofScaled c q = d at *
  have hvalue := digitsValue_toDigits c
  change digitsValue (values _) = c at hvalue
  obtain ⟨first, rest, hfirst, -, hne⟩ := exists_toDigits_eq_cons hc
  have hascii : ∀ x ∈ d.digits, isAsciiDigit x = true := fun x hx =>
    isAsciiDigit_of_mem_toDigits (n := c) (by rw [hsplit]; exact List.mem_append_left _ hx)
  refine ⟨hascii, ?_, ?_⟩
  · cases hd : d.digits with
    | nil =>
      -- then the number would be made of zeros
      rw [hsplit, hd, List.nil_append, values_replicate_zero, digitsValue_replicate_zero] at hvalue
      omega
    | cons x xs =>
      rw [hsplit, hd, List.cons_append] at hfirst
      cases hfirst
      exact ⟨_, _, rfl, hne⟩
  · rw [hsplit, values_append, values_replicate_zero, digitsValue_append,
      digitsValue_replicate_zero, List.length_replicate, Nat.add_zero] at hvalue
    rw [hpoint, ← hvalue, show (d.digits.length : Int) + k + q - d.digits.length = (k : Int) + q by
      ring, zpow_add₀ (by norm_num), zpow_natCast]
    push_cast
    ring

theorem Pieces.pointed_of_ne_nil {ds : List Char} (h : ds ≠ []) : pointed ds = '.' :: ds := by
  cases ds with
  | nil => exact absurd rfl h
  | cons d ds => rfl

theorem forall_zeros_ascii (n : Nat) : ∀ c ∈ List.replicate n '0', isAsciiDigit c = true := by
  intro c hc
  rw [List.eq_of_mem_replicate hc]
  decide

/-- The pieces `p` stand for the digits `d` with a point: they are valid, make up the text, and are
    worth the number. -/
def Pieces.Write (p : Pieces) (d : DigitString) (text : List Char) : Prop :=
  p.Valid ∧ text = p.chars ∧
    p.value = digitsValue (values d.digits) * 10 ^ (d.point - d.digits.length)

section Layouts

variable {d : DigitString} (hascii : ∀ c ∈ d.digits, isAsciiDigit c = true)
  (hhead : ∃ c rest, d.digits = c :: rest ∧ c ≠ '0')

include hascii hhead

/-- Below one: zeros stand between the point and the digits. -/
theorem write_small (hpoint : d.point ≤ 0) :
    Pieces.Write ⟨['0'], List.replicate (-d.point).toNat '0' ++ d.digits, none⟩ d
      ('0' :: '.' :: (List.replicate (-d.point).toNat '0' ++ d.digits)) := by
  obtain ⟨x, xs, hd, hx⟩ := hhead
  have hfraction : List.replicate (-d.point).toNat '0' ++ d.digits ≠ [] := by
    rw [hd]
    exact List.append_ne_nil_of_right_ne_nil _ (List.cons_ne_nil _ _)
  have hzero : ∀ c ∈ ['0'], isAsciiDigit c = true := forall_zeros_ascii 1
  refine ⟨⟨hzero, ?_, .inl rfl, .inl hfraction⟩, ?_, ?_⟩
  · exact List.forall_mem_append.2 ⟨forall_zeros_ascii _, hascii⟩
  · rw [Pieces.chars, Pieces.pointed_of_ne_nil hfraction, Pieces.scaled, List.append_nil]
    rfl
  · have hdigits : values (['0'] ++ (List.replicate (-d.point).toNat '0' ++ d.digits)) =
        List.replicate ((-d.point).toNat + 1) 0 ++ values d.digits := by
      rw [values_append, values_append, values_replicate_zero, List.replicate_succ,
        List.cons_append]
      rfl
    have hscale : (none : Option Int).getD 0 -
        (List.replicate (-d.point).toNat '0' ++ d.digits).length = d.point - d.digits.length := by
      rw [List.length_append, List.length_replicate, Option.getD_none]
      omega
    rw [Pieces.value, Pieces.digits, Pieces.scale, hscale, hdigits, digitsValue_append,
      digitsValue_replicate_zero, Nat.zero_mul, Nat.zero_add]

/-- No digit stands behind the point, so a zero is written there. -/
theorem write_whole (hpoint : 0 < d.point) (hlong : d.digits.length ≤ d.point.toNat) :
    Pieces.Write
      ⟨d.digits ++ List.replicate (d.point.toNat - d.digits.length) '0', ['0'], none⟩ d
      (d.digits ++ List.replicate (d.point.toNat - d.digits.length) '0' ++ ['.', '0']) := by
  obtain ⟨x, xs, hd, hx⟩ := hhead
  have hzero : ∀ c ∈ ['0'], isAsciiDigit c = true := forall_zeros_ascii 1
  refine ⟨⟨?_, hzero, .inr ⟨x, _, by rw [hd, List.cons_append], hx⟩,
    .inl (List.cons_ne_nil _ _)⟩, ?_, ?_⟩
  · exact List.forall_mem_append.2 ⟨hascii, forall_zeros_ascii _⟩
  · rfl
  · have hdigits : values (d.digits ++ List.replicate (d.point.toNat - d.digits.length) '0' ++
        ['0']) = values d.digits ++ List.replicate (d.point.toNat - d.digits.length + 1) 0 := by
      rw [values_append, values_append, values_replicate_zero, List.replicate_succ',
        List.append_assoc]
      rfl
    rw [Pieces.value, Pieces.digits, Pieces.scale, hdigits, digitsValue_append,
      digitsValue_replicate_zero, List.length_replicate, Nat.add_zero,
      show d.point - d.digits.length =
        ((d.point.toNat - d.digits.length + 1 : Nat) : Int) + (-1) by omega,
      zpow_add₀ (by norm_num), zpow_natCast]
    push_cast
    rw [mul_assoc]
    rfl

/-- The point stands among the digits. -/
theorem write_among (hpoint : 0 < d.point) (hlong : d.point.toNat < d.digits.length) :
    Pieces.Write ⟨d.digits.take d.point.toNat, d.digits.drop d.point.toNat, none⟩ d
      (d.digits.take d.point.toNat ++ '.' :: d.digits.drop d.point.toNat) := by
  obtain ⟨x, xs, hd, hx⟩ := hhead
  have hfraction : d.digits.drop d.point.toNat ≠ [] := by
    rw [← List.length_pos_iff, List.length_drop]
    omega
  obtain ⟨n, hn⟩ : ∃ n, d.point.toNat = n + 1 := ⟨d.point.toNat - 1, by omega⟩
  refine ⟨⟨fun c hc => hascii c (List.mem_of_mem_take hc),
    fun c hc => hascii c (List.mem_of_mem_drop hc), .inr ⟨x, xs.take n, ?_, hx⟩,
    .inl hfraction⟩, ?_, ?_⟩
  · rw [hn, hd, List.take_succ_cons]
  · rw [Pieces.chars, Pieces.pointed_of_ne_nil hfraction, Pieces.scaled, List.append_nil]
  · rw [Pieces.value, Pieces.digits, Pieces.scale, List.take_append_drop, List.length_drop,
      Option.getD_none, show (0 : Int) - (d.digits.length - d.point.toNat : Nat) =
        d.point - d.digits.length by omega]

/-- An exponent is written (`Layout.exponentText`), after one digit and perhaps more behind a
    point. -/
theorem write_scientific :
    ∃ x xs, d.digits = x :: xs ∧ Pieces.Write ⟨[x], xs, some (d.point - 1)⟩ d
      (x :: Pieces.pointed xs ++ (Layout.exponentText (d.point - 1)).toList) := by
  obtain ⟨x, xs, hd, hx⟩ := hhead
  rw [hd, List.forall_mem_cons] at hascii
  refine ⟨x, xs, hd, ⟨?_, hascii.2, .inr ⟨x, [], rfl, hx⟩, .inr rfl⟩, rfl, ?_⟩
  · exact List.forall_mem_cons.2 ⟨hascii.1, by simp⟩
  · rw [Pieces.value, Pieces.digits, Pieces.scale, hd, Option.getD_some, List.length_cons]
    push_cast
    rw [show d.point - 1 - (xs.length : Int) = d.point - (xs.length + 1) by ring]
    rfl

/-- **The exact format writes pieces that are worth the number** (`Pieces.Write`), in whichever of
    its layouts. -/
theorem exists_pieces : ∃ p : Pieces, p.Write d (Layout.exact.text d).toList := by
  unfold Layout.text
  split
  · split
    · have hw := write_small hascii hhead (by assumption)
      rw [String.toList_append, String.toList_ofList, String.toList_ofList]
      exact ⟨_, hw⟩
    · dsimp only
      split
      · have hw := write_whole hascii hhead (by omega) (by assumption)
        rw [String.toList_append, String.toList_ofList]
        exact ⟨_, hw⟩
      · have hw := write_among hascii hhead (by omega) (by omega)
        rw [String.toList_ofList]
        exact ⟨_, hw⟩
  · obtain ⟨x, xs, hd, hw⟩ := write_scientific hascii hhead
    rw [String.toList_append, String.toList_ofList, hd]
    cases xs with
    | nil => exact ⟨_, hw⟩
    | cons y ys => exact ⟨_, hw⟩

end Layouts

/-- **The exact text of a finite value is a sign and pieces that are read back as the value** by
    `ofDecimal`. -/
theorem exists_exactText_eq (s : Bool) {m : Nat} {e : Int} (h : IsCanonical m e) :
    ∃ p : Pieces, p.Valid ∧
      (Binary64.finite s m e h).exactText.toList = (if s then ['-'] else []) ++ p.chars ∧
      ofDecimal s p.digits p.scale = .finite s m e h := by
  have hsign : (Binary64.signText s).toList = if s then ['-'] else [] := by
    cases s <;> rfl
  by_cases hm : m = 0
  · -- zero has the lowest exponent
    have he : e = -1074 := by
      obtain ⟨-, -, -, hle | he⟩ := h
      · rw [Nat.pow_eq] at hle
        omega
      · exact he
    subst hm he
    have hzero : ∀ c ∈ ['0'], isAsciiDigit c = true := forall_zeros_ascii 1
    refine ⟨⟨['0'], ['0'], none⟩, ⟨hzero, hzero, .inl rfl, .inl (List.cons_ne_nil _ _)⟩, ?_, ?_⟩
    · rw [Binary64.exactText, Binary64.render, String.toList_append, hsign, if_pos rfl]
      rfl
    · refine ofDecimal_of_zero s ?_ _ h
      decide
  · obtain ⟨c, q, hc, hs, hnear⟩ := DigitString.shortest_spec h (Nat.pos_of_ne_zero hm)
    obtain ⟨hascii, hhead, hvalue⟩ := ofScaled_spec hc q
    obtain ⟨p, hp, htext, hworth⟩ := exists_pieces hascii hhead
    refine ⟨p, hp, ?_, ?_⟩
    · rw [Binary64.exactText, Binary64.render, String.toList_append, hsign, if_neg hm, hs, htext]
    · refine ofDecimal_of_nearest h (Nat.pos_of_ne_zero hm) s values_lt ?_
      have hworth' : (digitsValue p.digits : ℚ) * 10 ^ p.scale = c * 10 ^ q :=
        hworth.trans hvalue
      rw [← hworth'] at hnear
      exact hnear

end PrinterConsole.Number
