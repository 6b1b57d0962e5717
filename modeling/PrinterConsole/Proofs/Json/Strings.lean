/-
  Written strings are read back.

  A character is written as itself, as an escape of one letter, or as the escapes of its code
  units; a reader collects code units and makes characters of them again.  A character is never
  one half of a surrogate pair, so the units of a text fall apart into characters in one way only
  (`ofUnits_flatMap`).

  The two steps of the reader are dealt with one after the other.  Whichever way a character was
  written, it is collected as its units (`stringUnits_escaped`); what is made of the units is then
  known without looking at how they were written.

  Main statements: four hexadecimal digits give their number back (`hexText_four`), the units of a
  text are read as the text (`ofUnits_flatMap`), and so is a written string
  (`readString_escaped`).
-/
import PrinterConsole.Json.Reader
import PrinterConsole.Json.Writer

namespace PrinterConsole.Json

/-! ## Hexadecimal digits

  A code unit is written in four hexadecimal digits, padded with zeros, and read back by
  `hexNumber`. -/

theorem hexValue?_digitChar : ∀ d, d < 16 → hexValue? (Nat.digitChar d) = some d := by decide

/-- In `hexNumber` one more digit at the end counts one, and each before it sixteen times as
    much. -/
theorem hexNumber_append (cs : List Char) (c : Char) :
    hexNumber (cs ++ [c]) = 16 * hexNumber cs + (hexValue? c).getD 0 := by
  rw [hexNumber, List.foldl_append]
  rfl

/-- The hexadecimal digits of a number are digits, and they give the number by `hexNumber`. -/
theorem toDigits_sixteen (n : Nat) :
    (∀ c ∈ Nat.toDigits 16 n, isHexDigit c = true) ∧ hexNumber (Nat.toDigits 16 n) = n := by
  induction n using Nat.strongRecOn with
  | ind n ih =>
    rw [Nat.toDigits_eq_if (by decide)]
    split
    · rename_i hn
      have hv := hexValue?_digitChar n hn
      refine ⟨?_, ?_⟩
      · intro c hc
        rw [List.mem_singleton.1 hc, isHexDigit, hv]
        rfl
      · rw [hexNumber, List.foldl_cons, List.foldl_nil, hv]
        simp
    · have hv := hexValue?_digitChar (n % 16) (Nat.mod_lt n (by decide))
      obtain ⟨hdigits, hvalue⟩ := ih (n / 16) (by omega)
      refine ⟨?_, ?_⟩
      · intro c hc
        rcases List.mem_append.1 hc with hc | hc
        · exact hdigits c hc
        · rw [List.mem_singleton.1 hc, isHexDigit, hv]
          rfl
      · rw [hexNumber_append, hvalue, hv, Option.getD_some]
        omega

theorem hexNumber_zeros (k : Nat) (cs : List Char) :
    hexNumber (List.replicate k '0' ++ cs) = hexNumber cs := by
  induction k with
  | zero => rfl
  | succ k ih => exact ih

/-- **Four hexadecimal digits (`hexText`) give their number back.** -/
theorem hexText_four {u : Nat} (hu : u < 0x10000) :
    ∃ a b c d, hexText 4 u = [a, b, c, d] ∧ [a, b, c, d].all isHexDigit = true ∧
      hexNumber [a, b, c, d] = u := by
  obtain ⟨hdigits, hvalue⟩ := toDigits_sixteen u
  have hlength : (Nat.toDigits 16 u).length ≤ 4 :=
    (Nat.length_toDigits_le_iff (by decide) (by decide)).2 hu
  -- zeros fill up what is missing
  have hfour : (hexText 4 u).length = 4 := by
    rw [hexText, List.length_append, List.length_replicate]
    omega
  match hd : hexText 4 u, hfour with
  | [a, b, c, d], _ =>
    refine ⟨a, b, c, d, rfl, ?_, ?_⟩
    · rw [← hd, List.all_eq_true]
      intro x hx
      rcases List.mem_append.1 hx with hx | hx
      · rw [List.eq_of_mem_replicate hx]
        decide
      · exact hdigits x hx
    · rw [← hd, hexText, hexNumber_zeros, hvalue]

/-! ## Code units

  A character is one code unit or a pair, and the pair is made of units that are no characters; so a
  list of units is read in one way only. -/

theorem toNat_not_surrogate (c : Char) : ¬(0xD800 ≤ c.toNat ∧ c.toNat ≤ 0xDFFF) := by
  have hv : c.toNat < 0xD800 ∨ 0xDFFF < c.toNat ∧ c.toNat < 0x110000 := c.valid
  omega

theorem toNat_lt (c : Char) : c.toNat < 0x110000 := by
  have hv : c.toNat < 0xD800 ∨ 0xDFFF < c.toNat ∧ c.toNat < 0x110000 := c.valid
  omega

/-- The units of a character (`unitsOf`) have sixteen bits, so each is written with four digits. -/
theorem unitsOf_lt (c : Char) : ∀ u ∈ unitsOf c, u < 0x10000 := by
  have hc := toNat_lt c
  unfold unitsOf
  dsimp only
  split
  · rintro u hu
    rw [List.mem_singleton.1 hu]
    assumption
  · rintro u hu
    simp only [List.mem_cons, List.not_mem_nil, or_false] at hu
    omega

/-- `ofUnits` makes a character again of the one or two units that `unitsOf` gave for it. -/
theorem ofUnits_unitsOf (c : Char) (us : List Nat) :
    ofUnits (unitsOf c ++ us) = c :: ofUnits us := by
  have hc := toNat_lt c
  unfold unitsOf
  dsimp only
  split
  · rw [List.cons_append, List.nil_append, ofUnits.eq_def]
    dsimp only
    rw [if_neg (toNat_not_surrogate c), Char.ofNat_toNat]
  · -- a leading and a trailing surrogate, which are put together again
    rename_i hlarge
    rw [List.cons_append, List.cons_append, List.nil_append, ofUnits.eq_def]
    dsimp only
    rw [if_pos (by omega), if_pos (by omega)]
    have hjoined : 0x10000 + (0xD800 + (c.toNat - 0x10000) / 0x400 - 0xD800) * 0x400 +
        (0xDC00 + (c.toNat - 0x10000) % 0x400 - 0xDC00) = c.toNat := by omega
    rw [hjoined, Char.ofNat_toNat]

/-- **The units of a text are read as the text**: `ofUnits` undoes `unitsOf`. -/
theorem ofUnits_flatMap (cs : List Char) : ofUnits (cs.flatMap unitsOf) = cs := by
  induction cs with
  | nil => rw [List.flatMap_nil, ofUnits]
  | cons c rest ih => rw [List.flatMap_cons, ofUnits_unitsOf, ih]

/-! ## Strings

  A string is written character by character, each plain, by a short escape or by its units, and
  read unit by unit. -/

theorem stringUnits_hexText {u : Nat} (hu : u < 0x10000) (acc : List Nat) (rest : List Char) :
    stringUnits acc ('\\' :: 'u' :: hexText 4 u ++ rest) = stringUnits (u :: acc) rest := by
  obtain ⟨a, b, c, d, hd, hdigits, hvalue⟩ := hexText_four hu
  rw [hd]
  show stringUnits acc ('\\' :: 'u' :: a :: b :: c :: d :: rest) = _
  rw [stringUnits, if_pos hdigits, hvalue]

/-- Escapes of four digits are collected by `stringUnits` as their units, in reverse. -/
theorem stringUnits_flatMap_hexText {us : List Nat} (hu : ∀ u ∈ us, u < 0x10000) (acc : List Nat)
    (rest : List Char) :
    stringUnits acc ((us.flatMap fun u => '\\' :: 'u' :: hexText 4 u) ++ rest) =
      stringUnits (us.reverse ++ acc) rest := by
  induction us generalizing acc with
  | nil => rfl
  | cons u us ih =>
    rw [List.forall_mem_cons] at hu
    rw [List.flatMap_cons, List.append_assoc, stringUnits_hexText hu.1, ih hu.2,
      List.reverse_cons, List.append_assoc]
    rfl

/-- A plain character stands for itself in a string and is one unit. -/
theorem stringUnits_plain {c : Char} (hquote : c ≠ '"') (hslash : c ≠ '\\')
    (hc : 0x20 ≤ c.toNat) (acc : List Nat) (rest : List Char) :
    stringUnits acc (c :: rest) = stringUnits (c.toNat :: acc) rest := by
  rw [stringUnits.eq_def]
  split
  · rename_i heq
    cases heq
    exact absurd rfl hquote
  · rename_i heq
    cases heq
    exact absurd rfl hslash
  · rename_i heq
    cases heq
    exact absurd rfl hslash
  · rename_i heq
    cases heq
    rw [if_neg (by omega)]
  · rename_i heq
    cases heq

/-- A written character (`escaped`) is read as its units. -/
theorem stringUnits_escaped (c : Char) (acc : List Nat) (rest : List Char) :
    stringUnits acc (escaped c ++ rest) = stringUnits ((unitsOf c).reverse ++ acc) rest := by
  unfold escaped
  split
  iterate 7 rfl
  · rename_i hquote hslash _ _ _ _ _
    split
    · rename_i hc
      rw [List.cons_append, List.nil_append, stringUnits_plain hquote hslash hc.1, unitsOf,
        if_pos (by omega)]
      rfl
    · exact stringUnits_flatMap_hexText (unitsOf_lt c) acc rest

/-- A string that was written `escaped`, up to its closing quote, is read as the units of its
    characters. -/
theorem stringUnits_flatMap_escaped (cs : List Char) (acc : List Nat) (rest : List Char) :
    stringUnits acc (cs.flatMap escaped ++ '"' :: rest) =
      some ((cs.flatMap unitsOf).reverse ++ acc, rest) := by
  induction cs generalizing acc with
  | nil => rfl
  | cons c cs ih =>
    rw [List.flatMap_cons, List.append_assoc, stringUnits_escaped, ih, List.flatMap_cons,
      List.reverse_append, List.append_assoc]

/-- **A written string is read back** by `readString`. -/
theorem readString_escaped (s : String) (rest : List Char) :
    readString (s.toList.flatMap escaped ++ '"' :: rest) = .ok (s, rest) := by
  rw [readString, stringUnits_flatMap_escaped, List.append_nil]
  simp only [List.reverse_reverse, ofUnits_flatMap, String.ofList_toList]

theorem toList_stringText (s : String) :
    (stringText s).toList = '"' :: (s.toList.flatMap escaped ++ ['"']) := by
  rw [stringText, String.toList_ofList]
  rfl

end PrinterConsole.Json
