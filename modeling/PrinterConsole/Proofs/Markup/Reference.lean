/-
  What character references stand for is shorter than they are.

  Replacing references goes from left to right, so a piece of text that ends no reference in the
  middle can be replaced by itself (`Reads`): plain characters stand for themselves, and a closed
  reference for what it names.  `Reads.append` puts such pieces together.

  A name stands for two characters at most (`length_named_le`), and the names that count without a
  semicolon have two letters at least (`two_le_length_oldNamed`).  So a closed reference stands
  for fewer characters than it has, or for itself; that is proved for each of its three kinds, by
  name (`reads_name`), by a decimal number (`reads_decimal`) and by a hexadecimal one
  (`reads_hexadecimal`).

  A name need not be taken whole: of the characters behind the ampersand at most 32 are looked at,
  and a character that is none of a name ends it as well.  Hence the two equations of
  `nameReference`, for a name that is taken whole (`nameReference_closed`) and for one of which
  only the front is (`nameReference_open`).

  Main statements: what a closed reference stands for (`IsEntity.reads`), and that what looks like
  a reference in markup is one (`referenceAt_spec`).
-/
import PrinterConsole.Markup.Clean
import PrinterConsole.Proofs.Markup.Names
import PrinterConsole.Proofs.Number.Written

namespace PrinterConsole.Markup

open PrinterConsole.Number PrinterConsole.Text

/-! ## From left to right

  The reader goes on behind whatever it took for a reference, so it always ends.  `Reads` says what
  a text is read as whatever follows it, which is what makes reading go piece by piece. -/

/-- `dropSemicolon` takes one character at most and adds none. -/
theorem length_dropSemicolon_le (cs : List Char) : (dropSemicolon cs).length ≤ cs.length := by
  unfold dropSemicolon
  split
  · exact Nat.le_succ _
  · exact Nat.le_refl _

/-- What `nameReference` leaves is no longer than what it was given. -/
theorem length_nameReference_le (cs : List Char) : (nameReference cs).2.length ≤ cs.length := by
  unfold nameReference
  dsimp only
  split
  · rw [List.length_drop, List.length_drop]
    omega
  · rw [List.length_drop]
    omega

/-- What follows a `reference` is no longer than what follows its ampersand, so `resolve` comes to
    an end. -/
theorem length_reference_le {cs value left : List Char} (h : reference cs = .ok (value, left)) :
    left.length ≤ cs.length := by
  have hdrop : ∀ (p : Char → Bool) (xs : List Char),
      (dropSemicolon (xs.dropWhile p)).length ≤ xs.length := fun p xs =>
    (length_dropSemicolon_le _).trans (List.dropWhile_sublist p).length_le
  unfold reference at h
  split at h
  · rename_i rest
    split at h
    · split at h
      · cases h
        exact (hdrop _ _).trans (Nat.le_succ _)
      · cases h
    · split at h
      · rename_i x more
        split at h
        · cases h
          exact (hdrop _ _).trans (by simp only [List.length_cons]; omega)
        · cases h
          exact Nat.le_refl _
      · cases h
        exact Nat.le_refl _
  · split at h
    · have hname := congrArg (·.2.length) (Except.ok.inj h)
      exact hname ▸ length_nameReference_le cs
    · cases h
      exact Nat.le_refl _

/-- More rounds than characters change nothing: `resolveFuel` takes a character in every round. -/
theorem resolveFuel_congr {n m : Nat} {cs : List Char} (hn : cs.length ≤ n) (hm : cs.length ≤ m) :
    resolveFuel n cs = resolveFuel m cs := by
  induction n generalizing m cs with
  | zero =>
    obtain rfl : cs = [] := List.length_eq_zero_iff.1 (Nat.le_zero.1 hn)
    cases m <;> rfl
  | succ n ih =>
    cases cs with
    | nil => cases m <;> rfl
    | cons c rest =>
      obtain ⟨m, rfl⟩ : ∃ k, m = k + 1 := Nat.exists_eq_add_of_le' (Nat.one_le_of_lt hm)
      rw [List.length_cons, Nat.add_le_add_iff_right] at hn hm
      rw [resolveFuel, resolveFuel]
      split
      · cases href : reference rest with
        | error e => rfl
        | ok result =>
          obtain ⟨value, left⟩ := result
          have hleft := length_reference_le href
          dsimp only
          rw [ih (hleft.trans hn) (hleft.trans hm)]
      · rw [ih hn hm]

theorem resolve_nil : resolve [] = .ok [] := rfl

theorem resolve_cons_of_ne {c : Char} (hc : c ≠ '&') (rest : List Char) :
    resolve (c :: rest) = (resolve rest).map (c :: ·) := by
  rw [resolve, List.length_cons, resolveFuel, if_neg hc]
  rfl

/-- An ampersand and its `reference` stand for a `value`, and reading goes on with what is
    `left`. -/
theorem resolve_ampersand {rest value left : List Char} (h : reference rest = .ok (value, left)) :
    resolve ('&' :: rest) = (resolve left).map (value ++ ·) := by
  rw [resolve, List.length_cons, resolveFuel, if_pos rfl, h]
  dsimp only
  rw [resolve, resolveFuel_congr (length_reference_le h) (Nat.le_refl _)]

/-- A text is refused with the first `reference` in it that is. -/
theorem resolve_ampersand_error {rest : List Char} {e : Fault} (h : reference rest = .error e) :
    resolve ('&' :: rest) = .error e := by
  rw [resolve, List.length_cons, resolveFuel, if_pos rfl, h]

/-- A `written` text is read as a `plain` one, whatever follows it. -/
def Reads (written plain : List Char) : Prop :=
  ∀ rest, resolve (written ++ rest) = (resolve rest).map (plain ++ ·)

namespace Reads

theorem nil : Reads [] [] := by
  intro rest
  rw [List.nil_append]
  cases resolve rest <;> rfl

theorem append {w w' p p' : List Char} (h : Reads w p) (h' : Reads w' p') :
    Reads (w ++ w') (p ++ p') := by
  intro rest
  rw [List.append_assoc, h, h']
  cases resolve rest with
  | error e => rfl
  | ok cs => exact congrArg Except.ok (List.append_assoc p p' cs).symm

theorem char {c : Char} (hc : c ≠ '&') : Reads [c] [c] := fun rest => resolve_cons_of_ne hc rest

theorem plain {cs : List Char} (h : '&' ∉ cs) : Reads cs cs := by
  induction cs with
  | nil => exact nil
  | cons c rest ih =>
    rw [List.mem_cons, not_or] at h
    exact (char (Ne.symm h.1)).append (ih h.2)

/-- A `reference` that ends where the written text ends is read as the `value` it stands for. -/
theorem of_reference {w value : List Char}
    (h : ∀ rest, reference (w ++ rest) = .ok (value, rest)) : Reads ('&' :: w) value :=
  fun rest => resolve_ampersand (h rest)

/-- An ampersand that begins no `reference` is read as itself, and so is the text behind it. -/
theorem of_literal {w : List Char} (hw : '&' ∉ w)
    (h : ∀ rest, reference (w ++ rest) = .ok (['&'], w ++ rest)) :
    Reads ('&' :: w) ('&' :: w) := by
  intro rest
  rw [List.cons_append, resolve_ampersand (h rest), plain hw]
  cases resolve rest <;> rfl

/-- A text is read as a whole as it is read in front of others: nothing follows it. -/
theorem resolve_eq {w p : List Char} (h : Reads w p) : resolve w = .ok p := by
  have hw := h []
  rw [List.append_nil, resolve_nil] at hw
  rw [hw]
  exact congrArg Except.ok (List.append_nil p)

/-- A text is read in one way only, as `resolve` has one answer. -/
theorem unique {w p q : List Char} (hp : Reads w p) (hq : Reads w q) : p = q :=
  Except.ok.inj (hp.resolve_eq.symm.trans hq.resolve_eq)

end Reads

/-! ## References by name

  With its semicolon a name is looked up as it stands; without one, or if it is not known, the
  longest old name that it begins with counts, and what is left of it is text. -/

/-- What `longestOldName` makes of a name is no longer than the name: the front has two letters at
    least, and two characters at most are put for it. -/
theorem length_longestOldName_le {name value : List Char} {n : Nat} (hn : n ≤ name.length)
    (h : longestOldName name n = some value) : value.length ≤ name.length := by
  fun_induction longestOldName name n with
  | case1 => cases h
  | case2 => cases h
  | case3 n cs hcs =>
    cases h
    obtain ⟨-, hlength⟩ := two_le_length_oldNamed hcs
    rw [List.length_append, List.length_drop]
    omega
  | case4 n hnone ih => exact ih (by omega) h

/-- Cut to 32 characters, the name of a reference ends where it does, be a semicolon inside the cut
    or not. -/
theorem takeWhile_name (name rest : List Char) :
    ((name ++ ';' :: rest).take 32).takeWhile isNameChar = (name.take 32).takeWhile isNameChar := by
  have hstop : ((';' :: rest).take (32 - name.length)).takeWhile isNameChar = [] := by
    cases 32 - name.length with
    | zero => rw [List.take_zero, List.takeWhile_nil]
    | succ n => rw [List.take_succ_cons, List.takeWhile_cons_of_neg (by decide)]
  rw [List.take_append, List.takeWhile_append, hstop, List.append_nil]
  split
  · rename_i hall
    exact (List.IsPrefix.eq_of_length (List.takeWhile_prefix _) hall).symm
  · rfl

/-- What a whole name with its semicolon stands for, as `nameReference` tells. -/
def closedValue (name : List Char) : List Char :=
  match named? name with
  | some v => v
  | none =>
    match longestOldName name name.length with
    | some v => v ++ [';']
    | none => '&' :: name ++ [';']

/-- What the `front` of a name stands for that no semicolon follows. -/
def openValue (front : List Char) : List Char :=
  match oldNamed? front with
  | some v => v
  | none =>
    match longestOldName front (front.length - 1) with
    | some v => v
    | none => '&' :: front

/-- A name of which all characters are taken, with its semicolon: `closedValue`, and the `rest` is
    left. -/
theorem nameReference_closed {name : List Char} (h : (name.take 32).takeWhile isNameChar = name)
    (rest : List Char) :
    nameReference (name ++ ';' :: rest) =
      (closedValue name, rest) := by
  unfold nameReference
  simp only [takeWhile_name, h, List.drop_left, List.head?_cons, beq_self_eq_true, if_true,
    List.drop_succ_cons, List.drop_zero]
  rfl

/-- A name of which only the `front` is taken: `openValue`, and reading goes on at `c`. -/
theorem nameReference_open {front back : List Char} {c : Char} (hc : c ≠ ';')
    (h : ((front ++ c :: back).take 32).takeWhile isNameChar = front) (rest : List Char) :
    nameReference (front ++ c :: back ++ ';' :: rest) =
      (openValue front, c :: back ++ ';' :: rest) := by
  have hopen : (some c == some ';') = false := by simpa using hc
  unfold nameReference
  simp only [takeWhile_name, h]
  simp only [List.append_assoc, List.drop_left, List.cons_append, List.head?_cons, hopen,
    Bool.false_eq_true, if_false, List.append_nil]
  rfl

/-- A reference whose first character may be in a name is one by name. -/
theorem reference_name {c : Char} (hc : isNameChar c = true) (cs : List Char) :
    reference (c :: cs) = .ok (nameReference (c :: cs)) := by
  have hne : c ≠ '#' := by
    rintro rfl
    exact absurd hc (by decide)
  unfold reference
  split
  · rename_i heq
    cases heq
    exact absurd rfl hne
  · simp [hc]

/-- The `closedValue` of a whole name is shorter than the reference, or it is the reference as it
    was written. -/
theorem closedValue_spec {name : List Char} (hne : name ≠ []) :
    closedValue name = '&' :: (name ++ [';']) ∨ (closedValue name).length < name.length + 2 := by
  have hpos := List.length_pos_iff.2 hne
  unfold closedValue
  split
  · rename_i v hv
    have := length_named_le hv
    right
    omega
  · split
    · rename_i v hv
      have := length_longestOldName_le (Nat.le_refl _) hv
      right
      rw [List.length_append, List.length_singleton]
      omega
    · exact .inl rfl

/-- What is made of the `front` of a name is no longer than the front, or is the front with its
    ampersand. -/
theorem openValue_spec (front : List Char) :
    openValue front = '&' :: front ∨ (openValue front).length ≤ front.length := by
  unfold openValue
  split
  · rename_i v hv
    obtain ⟨hlong, hshort⟩ := two_le_length_oldNamed hv
    exact .inr (hshort.trans hlong)
  · split
    · rename_i v hv
      exact .inr (length_longestOldName_le (Nat.sub_le _ _) hv)
    · exact .inl rfl

/-- **A reference by name is longer than what it stands for**, or stands for itself, whether the
    name is taken whole (`closedValue`) or only its front is (`openValue`). -/
theorem reads_name {c : Char} {cs : List Char} (hc : isNameChar c = true)
    (hname : ∀ x ∈ c :: cs, x ≠ ';' ∧ x ≠ '&') :
    ∃ v, Reads ('&' :: (c :: cs ++ [';'])) v ∧
      (v = '&' :: (c :: cs ++ [';']) ∨ v.length < (c :: cs).length + 2) := by
  have hreference : ∀ rest, reference (c :: cs ++ ';' :: rest) =
      .ok (nameReference (c :: cs ++ ';' :: rest)) := fun rest => reference_name hc _
  have hne : c :: cs ≠ [] := List.cons_ne_nil _ _
  obtain ⟨back, hback⟩ : ((c :: cs).take 32).takeWhile isNameChar <+: c :: cs :=
    (List.takeWhile_prefix _).trans (List.take_prefix _ _)
  generalize hfront : ((c :: cs).take 32).takeWhile isNameChar = front at hback
  generalize c :: cs = name at *
  cases back with
  | nil =>
    -- the whole name is taken
    rw [List.append_nil] at hback
    subst hback
    refine ⟨closedValue front, Reads.of_reference fun rest => ?_, closedValue_spec hne⟩
    rw [List.append_assoc, List.singleton_append, hreference, nameReference_closed hfront]
  | cons d back =>
    -- the rest of the name is text
    subst hback
    obtain ⟨hd, -⟩ := hname d (List.mem_append_right _ List.mem_cons_self)
    have hplain : '&' ∉ d :: back ++ [';'] := by
      rw [List.mem_append, List.mem_singleton, not_or]
      exact ⟨fun h => (hname _ (List.mem_append_right _ h)).2 rfl, by decide⟩
    refine ⟨openValue front ++ (d :: back ++ [';']), fun rest => ?_, ?_⟩
    · have hopen := hreference rest
      rw [nameReference_open hd hfront] at hopen
      have htext : '&' :: (front ++ d :: back ++ [';']) ++ rest =
          '&' :: (front ++ d :: back ++ ';' :: rest) := by simp
      have hrest : d :: back ++ ';' :: rest = d :: back ++ [';'] ++ rest := by simp
      rw [htext, resolve_ampersand hopen, hrest, Reads.plain hplain]
      cases resolve rest with
      | error e => rfl
      | ok plain => exact congrArg Except.ok (List.append_assoc _ _ _).symm
    · rcases openValue_spec front with hv | hv
      · left
        rw [hv]
        simp
      · right
        simp only [List.length_append, List.length_cons, List.length_nil]
        omega

/-! ## References by number

  All digits belong to the number, and a semicolon behind them does so as well.  A number that is no
  character of text stands for a replacement, or for nothing. -/

/-- A number stands for one character at most (`ofCode`). -/
theorem length_ofCode_le (n : Nat) : (ofCode n).length ≤ 1 := by
  unfold ofCode
  split
  · exact Nat.le_refl 1
  · split
    · exact Nat.le_refl 1
    · split
      · exact Nat.zero_le 1
      · exact Nat.le_refl 1

theorem takeWhile_semicolon {p : Char → Bool} {ds : List Char} (hds : ∀ c ∈ ds, p c = true)
    (hp : p ';' = false) (rest : List Char) :
    (ds ++ ';' :: rest).takeWhile p = ds ∧ (ds ++ ';' :: rest).dropWhile p = ';' :: rest := by
  rw [List.takeWhile_append_of_pos hds, List.dropWhile_append_of_pos hds,
    List.takeWhile_cons_of_neg (by simp [hp]), List.dropWhile_cons_of_neg (by simp [hp]),
    List.append_nil]
  exact ⟨rfl, rfl⟩

/-- **A reference by a decimal number is longer than what it stands for**, or stands for itself.  It
    is read at all only if it has at most `maxDigits` digits. -/
theorem reads_decimal {ds : List Char} (hds : ∀ c ∈ ds, isAsciiDigit c = true)
    (hlength : ds.length ≤ maxDigits) :
    ∃ v, Reads ('&' :: ('#' :: ds ++ [';'])) v ∧
      (v = '&' :: ('#' :: ds ++ [';']) ∨ v.length < ('#' :: ds).length + 2) := by
  cases ds with
  | nil => exact ⟨_, Reads.of_literal (by decide) fun rest => rfl, .inl rfl⟩
  | cons d ds =>
    have hvalues := length_values hds
    have hwhole : wholeOf false ((d :: ds).filterMap digitValue?) =
        some (digitsValue (values (d :: ds)) : Int) := by
      show wholeOf false (values (d :: ds)) = _
      have hsome :
          ¬ ((values (d :: ds)).isEmpty || maxDigits < (values (d :: ds)).length) = true := by
        simp only [Bool.or_eq_true, List.isEmpty_iff, decide_eq_true_eq, ← List.length_eq_zero_iff]
        rw [hvalues]
        simp only [List.length_cons] at hlength ⊢
        omega
      rw [wholeOf, if_neg hsome]
      rfl
    refine ⟨ofCode (digitsValue (values (d :: ds))), Reads.of_reference fun rest => ?_, .inr ?_⟩
    · obtain ⟨htake, hdrop⟩ := takeWhile_semicolon hds (by decide) rest
      have htext : '#' :: (d :: ds) ++ [';'] ++ rest = '#' :: (d :: ds ++ ';' :: rest) := by simp
      simp only [htext, reference, htake, hdrop, hwhole]
      rfl
    · exact lt_of_le_of_lt (length_ofCode_le _) (by simp)

/-- **A reference by a hexadecimal number is longer than what it stands for**, or stands for
    itself. -/
theorem reads_hexadecimal {x : Char} (hx : x = 'x' ∨ x = 'X') {ds : List Char}
    (hds : ∀ c ∈ ds, isHexDigit c = true) :
    ∃ v, Reads ('&' :: ('#' :: x :: ds ++ [';'])) v ∧
      (v = '&' :: ('#' :: x :: ds ++ [';']) ∨ v.length < ('#' :: x :: ds).length + 2) := by
  have hnone : ∀ more, (x :: more).takeWhile isAsciiDigit = [] := by
    intro more
    refine List.takeWhile_cons_of_neg ?_
    rcases hx with rfl | rfl <;> decide
  have htext : ∀ rest, '#' :: x :: ds ++ [';'] ++ rest = '#' :: x :: (ds ++ ';' :: rest) := by
    intro rest
    simp
  have hread : ∀ rest, (ds ++ ';' :: rest).takeWhile isHexDigit = ds ∧
      (ds ++ ';' :: rest).dropWhile isHexDigit = ';' :: rest :=
    takeWhile_semicolon hds (by decide)
  by_cases hempty : ds = []
  · subst hempty
    refine ⟨_, Reads.of_literal ?_ fun rest => ?_, .inl rfl⟩
    · rcases hx with rfl | rfl <;> decide
    · -- without a digit it is no reference, and stands for itself
      have hno : ¬ ((x = 'x' ∨ x = 'X') ∧ (';' :: rest).takeWhile isHexDigit ≠ []) :=
        fun h => h.2 (hread rest).1
      simp only [htext, List.nil_append, reference, hnone, if_neg hno]
  · refine ⟨ofCode (hexValue ds), Reads.of_reference fun rest => ?_, .inr ?_⟩
    · have hyes : (x = 'x' ∨ x = 'X') ∧ ds ≠ [] := ⟨hx, hempty⟩
      simp only [htext, reference, hnone, (hread rest).1, (hread rest).2, if_pos hyes]
      rfl
    · exact lt_of_le_of_lt (length_ofCode_le _) (by simp)

/-! ## References in markup

  The scanner looks for references too, by simpler rules.  What it takes for one need not be one for
  the reader, and then stands for itself. -/

/-- What may stand between an ampersand and a semicolon: a number in `decimal` or `hexadecimal`
    digits, or a `name`. -/
inductive IsEntity : List Char → Prop where
  | decimal {ds : List Char} (hds : ∀ c ∈ ds, isAsciiDigit c = true) : IsEntity ('#' :: ds)
  | hexadecimal {x : Char} {ds : List Char} (hx : x = 'x' ∨ x = 'X')
      (hds : ∀ c ∈ ds, isHexDigit c = true) : IsEntity ('#' :: x :: ds)
  | name {c : Char} {cs : List Char} (hc : isNameChar c = true)
      (hname : ∀ x ∈ c :: cs, x ≠ ';' ∧ x ≠ '&') : IsEntity (c :: cs)

/-- **A closed reference is longer than what it stands for**, or stands for itself.  The bound on
    its length keeps a decimal number readable (`reads_decimal`). -/
theorem IsEntity.reads {entity : List Char} (h : IsEntity entity)
    (hlength : entity.length ≤ maxDigits) :
    ∃ v, Reads ('&' :: (entity ++ [';'])) v ∧
      (v = '&' :: (entity ++ [';']) ∨ v.length < entity.length + 2) := by
  cases h with
  | decimal hds => exact reads_decimal hds (by simp only [List.length_cons] at hlength; omega)
  | hexadecimal hx hds => exact reads_hexadecimal hx hds
  | name hc hname => exact reads_name hc hname

/-- The digits that `numberBody` takes begin what they are read from, and something follows them. -/
theorem numberBody_spec {p : Char → Bool} {cs : List Char}
    (h : (numberBody p cs).2.head? = some ';') :
    (numberBody p cs).1 <+: cs ∧ (numberBody p cs).1.length < cs.length ∧
      ∀ c ∈ (numberBody p cs).1, p c = true := by
  have hdigits : (numberBody p cs).1 = cs.takeWhile fun c => p c && !endsReference c := by
    unfold numberBody
    dsimp only
    split <;> rfl
  have hrest : cs.dropWhile (fun c => p c && !endsReference c) ≠ [] := by
    intro hnil
    unfold numberBody at h
    simp only [hnil] at h
    cases h
  have hsplit := congrArg List.length
    (List.takeWhile_append_dropWhile (p := fun c => p c && !endsReference c) (l := cs))
  rw [List.length_append] at hsplit
  have hpos := List.length_pos_iff.2 hrest
  rw [hdigits]
  refine ⟨List.takeWhile_prefix _, by omega, fun c hc => ?_⟩
  have hdigit := List.mem_takeWhile_imp (p := fun c => p c && !endsReference c) hc
  exact (Bool.and_eq_true_iff.1 hdigit).1

/-- What is read of a number after its `#`: the mark, the digits and what follows them, as in
    `referenceAt`. -/
def numberAt (rest : List Char) : List Char × (List Char × List Char) :=
  match rest with
  | x :: more =>
    if x = 'x' ∨ x = 'X' then (['#', x], numberBody isHexDigit more)
    else (['#'], numberBody isAsciiDigit rest)
  | [] => (['#'], ([], []))

theorem referenceAt_number (rest : List Char) :
    referenceAt ('#' :: rest) =
      if (numberAt rest).2.2.head? = some ';' then some ((numberAt rest).1 ++ (numberAt rest).2.1)
      else none := rfl

/-- A number with a semicolon behind it is one that `IsEntity` tells, and it begins the text. -/
theorem numberAt_spec {rest : List Char} (h : (numberAt rest).2.2.head? = some ';') :
    IsEntity ((numberAt rest).1 ++ (numberAt rest).2.1) ∧
      (numberAt rest).1 ++ (numberAt rest).2.1 <+: '#' :: rest ∧
      ((numberAt rest).1 ++ (numberAt rest).2.1).length < ('#' :: rest).length := by
  cases rest with
  | nil => cases h
  | cons x more =>
    unfold numberAt at h ⊢
    dsimp only at h ⊢
    split at h
    · rename_i hx
      obtain ⟨hfront, hlength, hdigits⟩ := numberBody_spec h
      rw [if_pos hx]
      refine ⟨.hexadecimal hx hdigits, ?_, ?_⟩
      · exact List.cons_prefix_cons.2 ⟨rfl, List.cons_prefix_cons.2 ⟨rfl, hfront⟩⟩
      · simp only [List.length_append, List.length_cons, List.length_nil]
        omega
    · rename_i hx
      obtain ⟨hfront, hlength, hdigits⟩ := numberBody_spec h
      rw [if_neg hx]
      refine ⟨.decimal hdigits, List.cons_prefix_cons.2 ⟨rfl, hfront⟩, ?_⟩
      simp only [List.length_append, List.length_cons, List.length_nil] at hlength ⊢
      omega

/-- What ends no reference and is no number sign can stand in a name. -/
theorem isNameChar_of_not_ends {c : Char} (hends : endsReference c = false) (hc : c ≠ '#') :
    isNameChar c = true := by
  by_contra hname
  simp only [isNameChar, Bool.not_eq_true', Bool.not_eq_false, Bool.or_eq_true, beq_iff_eq]
    at hname
  rcases hname with ((((((rfl | rfl) | rfl) | rfl) | rfl) | rfl) | rfl) | rfl
  all_goals first | exact hc rfl | exact absurd hends (by decide)

/-- What is read of a name at the start of `part`: the characters up to one that ends a
    reference. -/
def nameAt (part : List Char) : List Char := part.takeWhile fun c => !endsReference c

/-- `referenceAt` where no number sign follows the ampersand. -/
theorem referenceAt_name {part : List Char} (h : ¬ ∃ rest, part = '#' :: rest) :
    referenceAt part =
      if !(nameAt part).isEmpty && isNameStart (nameAt part) &&
          (part.drop (nameAt part).length).head? == some ';' then some (nameAt part)
      else none := by
  unfold referenceAt
  split
  · exact absurd ⟨_, rfl⟩ h
  · rfl

/-- A name with a semicolon behind it is one that `IsEntity` tells, and it begins the text. -/
theorem nameAt_spec {part : List Char} (hnumber : ¬ ∃ rest, part = '#' :: rest)
    (hne : nameAt part ≠ []) (hsemicolon : (part.drop (nameAt part).length).head? = some ';') :
    IsEntity (nameAt part) ∧ nameAt part <+: part ∧ (nameAt part).length < part.length := by
  have hfront : nameAt part <+: part := List.takeWhile_prefix _
  have hends : ∀ c ∈ nameAt part, endsReference c = false := by
    intro c hc
    have := List.mem_takeWhile_imp (p := fun c => !endsReference c) hc
    simpa using this
  generalize nameAt part = name at *
  refine ⟨?_, hfront, ?_⟩
  · obtain ⟨c, cs, rfl⟩ := List.exists_cons_of_ne_nil hne
    refine .name (isNameChar_of_not_ends (hends c List.mem_cons_self) ?_) fun x hx => ?_
    · rintro rfl
      obtain ⟨rest, hrest⟩ := hfront
      exact hnumber ⟨_, hrest.symm⟩
    · have hx' := hends x hx
      constructor
      · rintro rfl
        exact absurd hx' (by decide)
      · rintro rfl
        exact absurd hx' (by decide)
  · by_contra hlong
    rw [List.drop_of_length_le (Nat.le_of_not_lt hlong)] at hsemicolon
    cases hsemicolon

/-- **A reference in markup is one**: what `referenceAt` finds is an `IsEntity`, and it begins the
    text in which it is found. -/
theorem referenceAt_spec {part entity : List Char} (h : referenceAt part = some entity) :
    IsEntity entity ∧ entity <+: part ∧ entity.length < part.length := by
  by_cases hnumber : ∃ rest, part = '#' :: rest
  · obtain ⟨rest, rfl⟩ := hnumber
    rw [referenceAt_number] at h
    split at h
    · rename_i hsemicolon
      cases h
      exact numberAt_spec hsemicolon
    · cases h
  · rw [referenceAt_name hnumber] at h
    split at h
    · rename_i hfound
      cases h
      simp only [Bool.and_eq_true, Bool.not_eq_true', List.isEmpty_eq_false_iff, beq_iff_eq]
        at hfound
      obtain ⟨⟨hne, -⟩, hsemicolon⟩ := hfound
      exact nameAt_spec hnumber hne hsemicolon
    · cases h

end PrinterConsole.Markup
