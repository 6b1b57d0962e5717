/-
  Which texts are read as a resolution, and as which one.

  A numeral is a run of digits of any script, perhaps with a sign in front.  A text is read from
  its start: blanks, a numeral, and perhaps an `x` with a second numeral directly behind it.  A
  numeral reaches as far as its digits do, and what stands behind the last one is not read, so an
  `x` that no numeral follows is passed over like a unit.

  `Run`, `Numeral` and `Reads` tell this without the reader.  The reader follows them because a
  run that no digit follows is exactly what it takes off the front
  (`Numeral.leadingDigits_append`), and what it takes off the front is a numeral
  (`exists_numeral_of_leadingDigits`).  Every text comes to one of three cases
  (`resolution_cases`), and as they exclude each other, each of the three equivalences follows
  from the list of cases.

  Main statement: `resolution_texts`.
-/
import Mathlib.Data.List.Induction
import Mathlib.Data.List.TakeWhile
import PrinterConsole.Proofs.Form.Numeral

namespace PrinterConsole.Form

open PrinterConsole.Number PrinterConsole.Text

/-! ## Numerals

  The grammar of a numeral, as a relation between characters and the number that they are: a sign or
  none, and then digits of any script. -/

/-- A run of digits of any script, and the natural that it denotes, by `digitValue?`. -/
inductive Run : List Char → Nat → Prop where
  | one {c : Char} {d : Nat} (hc : digitValue? c = some d) : Run [c] d
  | more {cs : List Char} {n d : Nat} {c : Char} (hcs : Run cs n) (hc : digitValue? c = some d) :
      Run (cs ++ [c]) (10 * n + d)

/-- A `Run` of digits with or without a sign in front, and the whole number that it denotes. -/
inductive Numeral : List Char → Int → Prop where
  | plain {cs : List Char} {n : Nat} (h : Run cs n) : Numeral cs n
  | plus {cs : List Char} {n : Nat} (h : Run cs n) : Numeral ('+' :: cs) n
  | minus {cs : List Char} {n : Nat} (h : Run cs n) : Numeral ('-' :: cs) (-n)

/-- The numeral `m` has no more digits than are converted. -/
def IsShortNumeral (m : List Char) : Prop := m.countP isDigit ≤ maxDigits

instance (m : List Char) : Decidable (IsShortNumeral m) := inferInstanceAs (Decidable (_ ≤ _))

/-- What a `Run` is: some characters, all of them digits, whose values make the number. -/
theorem Run.spec {cs : List Char} {n : Nat} (h : Run cs n) :
    cs ≠ [] ∧ (∀ c ∈ cs, isDigit c = true) ∧ digitsValue (values cs) = n := by
  have hdigit : ∀ {c : Char} {d : Nat}, digitValue? c = some d → ∀ x ∈ [c], isDigit x = true := by
    intro c d hc x hx
    rw [List.mem_singleton.1 hx, isDigit, hc]
    rfl
  have hvalues : ∀ {c : Char} {d : Nat}, digitValue? c = some d → values [c] = [d] := by
    intro c d hc
    rw [values, List.filterMap_cons_some hc, List.filterMap_nil]
  induction h with
  | @one c d hc =>
    refine ⟨List.cons_ne_nil _ _, hdigit hc, ?_⟩
    rw [hvalues hc, digitsValue_cons, digitsValue_nil, List.length_nil]
    omega
  | @more cs n d c _ hc ih =>
    obtain ⟨-, hdigits, hvalue⟩ := ih
    refine ⟨by simp, List.forall_mem_append.2 ⟨hdigits, hdigit hc⟩, ?_⟩
    rw [values_append, hvalues hc, digitsValue_append, hvalue, digitsValue_cons, digitsValue_nil,
      List.length_singleton, List.length_nil]
    omega

/-- Any digits are a `Run`. -/
theorem run_of_digits {cs : List Char} (hne : cs ≠ []) (h : ∀ c ∈ cs, isDigit c = true) :
    ∃ n, Run cs n := by
  induction cs using List.reverseRecOn with
  | nil => exact absurd rfl hne
  | append_singleton cs c ih =>
    rw [List.forall_mem_append] at h
    obtain ⟨d, hd⟩ := Option.isSome_iff_exists.1 (h.2 c (List.mem_singleton_self c))
    rcases List.eq_nil_or_concat cs with rfl | ⟨front, last, rfl⟩
    · exact ⟨d, .one hd⟩
    · obtain ⟨n, hn⟩ := ih (by simp) h.1
      exact ⟨_, .more hn hd⟩

theorem Numeral.append_digit {m : List Char} {n : Int} (h : Numeral m n) {c : Char}
    (hc : isDigit c = true) : ∃ n', Numeral (m ++ [c]) n' := by
  obtain ⟨d, hd⟩ := Option.isSome_iff_exists.1 hc
  cases h with
  | plain h => exact ⟨_, .plain (h.more hd)⟩
  | plus h => exact ⟨_, .plus (h.more hd)⟩
  | minus h => exact ⟨_, .minus (h.more hd)⟩

/-- **A numeral reaches as far as its digits do.** -/
theorem Numeral.exists_whole {m : List Char} {n : Int} (h : Numeral m n) (rest : List Char) :
    ∃ m' n' rest', m ++ rest = m' ++ rest' ∧ Numeral m' n' ∧ NoDigit rest' := by
  induction rest generalizing m n with
  | nil => exact ⟨m, n, [], rfl, h, noDigit_nil⟩
  | cons c rest ih =>
    cases hc : isDigit c with
    | false => exact ⟨m, n, c :: rest, rfl, h, noDigit_cons hc rest⟩
    | true =>
      obtain ⟨n', hn'⟩ := h.append_digit hc
      obtain ⟨m', n'', rest', heq, hwhole⟩ := ih hn'
      rw [List.append_assoc, List.singleton_append] at heq
      exact ⟨m', n'', rest', heq, hwhole⟩

/-! ## What the reader takes off the front

  The reader finds exactly the numerals of the grammar.  What it takes is as long as it can be, so
  what follows begins with no digit. -/

/-- A digit of any script is not blank, so trimming a text stops at it. -/
theorem isBlank_of_isDigit {c : Char} (h : isDigit c = true) : isBlank c = false := by
  have hzeros : ∀ z ∈ zeroCodes, 0x660 ≤ z ∧ (z + 9 < 0x1680 ∨ 0x1680 < z) ∧
      (z + 9 < 0x2000 ∨ 0x3000 < z) := by decide
  have hcode : 0x30 ≤ c.toNat ∧ c.toNat ≤ 0x39 ∨
      ∃ z ∈ zeroCodes, z ≤ c.toNat ∧ c.toNat < z + 10 := by
    unfold isDigit digitValue? at h
    split at h
    · exact .inl (by assumption)
    · split at h
      · cases h
      · rw [Option.isSome_map] at h
        obtain ⟨z, hz⟩ := Option.isSome_iff_exists.1 h
        have hrange := List.find?_some hz
        rw [Bool.and_eq_true, decide_eq_true_eq, decide_eq_true_eq] at hrange
        exact .inr ⟨z, List.mem_of_find?_eq_some hz, hrange⟩
  rw [← Bool.not_eq_true]
  intro hblank
  simp only [isBlank, Bool.or_eq_true, Bool.and_eq_true, decide_eq_true_eq, beq_iff_eq] at hblank
  rcases hcode with hascii | ⟨z, hz, hrange⟩
  · omega
  · have := hzeros z hz
    omega

/-- A `Run` behind its sign is taken off the front, if no digit follows it. -/
theorem leadingDigits_of_signed {cs ds rest : List Char} {negative : Bool} {n : Nat}
    (hsigned : signed cs = (negative, ds ++ rest)) (hds : Run ds n) (hr : NoDigit rest) :
    leadingDigits cs = some ((negative, values ds), rest) := by
  obtain ⟨hne, hdigits, -⟩ := hds.spec
  obtain ⟨htake, hdrop⟩ := takeWhile_append_of_noDigit (fun _ h => h) hdigits hr
  obtain ⟨d, vs, hvalues⟩ : ∃ d vs, values ds = d :: vs := by
    obtain ⟨c, more, rfl⟩ := List.exists_cons_of_ne_nil hne
    obtain ⟨d, hd⟩ := Option.isSome_iff_exists.1 (hdigits c List.mem_cons_self)
    exact ⟨d, values more, List.filterMap_cons_some hd⟩
  have hrun : digitRun (ds ++ rest) = (d :: vs, rest) := by
    rw [digitRun, htake, hdrop]
    exact congrArg (·, rest) hvalues
  rw [leadingDigits, hsigned]
  simp only [hrun, hvalues]

/-- A run is a whole number if it is not too long: `wholeOf` of its values. -/
theorem wholeOf_run {ds : List Char} {n : Nat} (h : Run ds n) (negative : Bool) :
    wholeOf negative (values ds) =
      if ds.countP isDigit ≤ maxDigits then some (if negative then -(n : Int) else n)
      else none := by
  obtain ⟨hne, hdigits, hvalue⟩ := h.spec
  have hlength : (values ds).length = ds.length := by
    rw [values, List.length_filterMap_eq_countP, List.countP_eq_length]
    exact hdigits
  have hcount : ds.countP isDigit = ds.length := List.countP_eq_length.2 hdigits
  have hpos : 0 < ds.length := List.length_pos_of_ne_nil hne
  have hempty : (values ds).isEmpty = false := by
    rw [List.isEmpty_eq_false_iff]
    intro hnil
    rw [hnil, List.length_nil] at hlength
    omega
  unfold wholeOf
  rw [hempty, hlength, hcount, hvalue, Bool.false_or]
  by_cases hlong : maxDigits < ds.length
  · rw [if_neg (by omega : ¬ ds.length ≤ maxDigits)]
    simp only [hlong, decide_true, if_true]
  · rw [if_pos (by omega : ds.length ≤ maxDigits)]
    simp only [hlong, decide_false, Bool.false_eq_true, if_false]

/-- A `Run` is converted if it is not too long, and is a fault otherwise. -/
theorem numberOf_run {ds : List Char} {n : Nat} (h : Run ds n) (negative : Bool) :
    numberOf (negative, values ds) =
      if ds.countP isDigit ≤ maxDigits then .ok (if negative then -(n : Int) else n)
      else .error .badNumeral := by
  rw [numberOf, wholeOf_run h]
  by_cases hshort : ds.countP isDigit ≤ maxDigits
  · rw [if_pos hshort, if_pos hshort]
  · rw [if_neg hshort, if_neg hshort]

/-- **The reader `leadingDigits` takes a numeral off the front**, and converts it if it is not too
    long. -/
theorem Numeral.leadingDigits_append {m rest : List Char} {n : Int} (h : Numeral m n)
    (hr : NoDigit rest) :
    ∃ found, leadingDigits (m ++ rest) = some (found, rest) ∧
      numberOf found = if IsShortNumeral m then .ok n else .error .badNumeral := by
  cases h with
  | @plain _ n h =>
    refine ⟨_, leadingDigits_of_signed ?_ h hr, numberOf_run h false⟩
    obtain ⟨hne, hdigits, -⟩ := h.spec
    obtain ⟨c, more, rfl⟩ := List.exists_cons_of_ne_nil hne
    exact signed_of_isDigit (hdigits c List.mem_cons_self) (more ++ rest)
  | @plus ds n h =>
    have hcount : ('+' :: ds).countP isDigit = ds.countP isDigit :=
      List.countP_cons_of_neg (by decide)
    refine ⟨_, leadingDigits_of_signed (by rfl) h hr, ?_⟩
    rw [numberOf_run h false, ← hcount]
    rfl
  | @minus ds n h =>
    have hcount : ('-' :: ds).countP isDigit = ds.countP isDigit :=
      List.countP_cons_of_neg (by decide)
    refine ⟨_, leadingDigits_of_signed (by rfl) h hr, ?_⟩
    rw [numberOf_run h true, ← hcount]
    rfl

/-- What it takes off the front is a `Numeral`, and no digit follows it. -/
theorem exists_numeral_of_leadingDigits {cs rest : List Char} {found : Bool × List Nat}
    (h : leadingDigits cs = some (found, rest)) :
    ∃ m n, cs = m ++ rest ∧ Numeral m n ∧ NoDigit rest := by
  have hsplit : ∀ body : List Char, body.takeWhile isDigit ++ body.dropWhile isDigit = body :=
    fun body => List.takeWhile_append_dropWhile
  have hend : ∀ body : List Char, NoDigit (body.dropWhile isDigit) := by
    intro body c hc
    exact head_dropWhile_not (List.eq_cons_of_mem_head? hc)
  have hrun : ∃ n, Run ((signed cs).2.takeWhile isDigit) n ∧
      rest = (signed cs).2.dropWhile isDigit := by
    unfold leadingDigits at h
    dsimp only at h
    split at h
    · cases h
    · rename_i ds rest' hne heq
      cases h
      rw [digitRun, Prod.mk.injEq] at heq
      have hnonempty : (signed cs).2.takeWhile isDigit ≠ [] := by
        intro hnil
        rw [hnil] at heq
        exact hne heq.1.symm
      obtain ⟨n, hn⟩ := run_of_digits hnonempty fun c hc => List.mem_takeWhile_imp hc
      exact ⟨n, hn, heq.2.symm⟩
  obtain ⟨n, hn, rfl⟩ := hrun
  have hbody := hsplit (signed cs).2
  -- the sign is read off again, now that the digits behind it are known
  revert hn hbody
  generalize hs : signed cs = s
  intro hn hbody
  rw [signed.eq_def] at hs
  split at hs
  · cases hs
    exact ⟨_, _, by rw [List.cons_append, hbody], .plus hn, hend _⟩
  · cases hs
    exact ⟨_, _, by rw [List.cons_append, hbody], .minus hn, hend _⟩
  · cases hs
    exact ⟨_, _, hbody.symm, .plain hn, hend _⟩

/-- **`leadingDigits` finds nothing exactly if the text does not start with a numeral.** -/
theorem leadingDigits_eq_none_iff {cs : List Char} :
    leadingDigits cs = none ↔ ¬ ∃ m n rest, cs = m ++ rest ∧ Numeral m n := by
  constructor
  · rintro hnone ⟨m, n, rest, rfl, hm⟩
    obtain ⟨m', n', rest', heq, hm', hend⟩ := hm.exists_whole rest
    obtain ⟨found, hfound, -⟩ := hm'.leadingDigits_append hend
    rw [heq, hfound] at hnone
    cases hnone
  · intro hnot
    cases hread : leadingDigits cs with
    | none => rfl
    | some read =>
      obtain ⟨found, rest⟩ := read
      obtain ⟨m, n, heq, hm, -⟩ := exists_numeral_of_leadingDigits hread
      exact absurd ⟨m, n, rest, heq, hm⟩ hnot

/-! ## Blanks in front -/

/-- A `Numeral` begins with a character that is not blank: a sign or a digit. -/
theorem Numeral.head {m : List Char} {n : Int} (h : Numeral m n) :
    ∃ c more, m = c :: more ∧ isBlank c = false := by
  cases h with
  | plain h =>
    obtain ⟨hne, hdigits, -⟩ := h.spec
    obtain ⟨c, more, rfl⟩ := List.exists_cons_of_ne_nil hne
    exact ⟨c, more, rfl, isBlank_of_isDigit (hdigits c List.mem_cons_self)⟩
  | plus h => exact ⟨_, _, rfl, by decide⟩
  | minus h => exact ⟨_, _, rfl, by decide⟩

/-- The `blanks` in front of a numeral are passed over, and nothing else is. -/
theorem trimStart_append {blanks m : List Char} {n : Int} (hblanks : ∀ c ∈ blanks, isBlank c = true)
    (h : Numeral m n) (rest : List Char) : trimStart (blanks ++ (m ++ rest)) = m ++ rest := by
  obtain ⟨c, more, rfl, hc⟩ := h.head
  rw [trimStart, List.dropWhile_append_of_pos hblanks]
  exact List.dropWhile_cons_of_neg (by simp [hc])

theorem exists_blanks (cs : List Char) :
    ∃ blanks, cs = blanks ++ trimStart cs ∧ ∀ c ∈ blanks, isBlank c = true :=
  ⟨cs.takeWhile isBlank, List.takeWhile_append_dropWhile.symm,
    fun _ hc => List.mem_takeWhile_imp hc⟩

/-! ## Resolutions

  The grammar of a resolution: a numeral, or two with an `x` between, behind blanks; whatever
  follows is ignored.  Either a text has this form in one way or it does not begin with a numeral
  (`reads_or_none`). -/

/-- How a text stands for a resolution, and which numerals are read of it: blanks, a numeral, and an
    `x` with a second numeral directly behind it; or one numeral for both, if no such `x` is
    there. -/
inductive Reads : List Char → List (List Char) → Int → Int → Prop where
  | one {blanks first rest : List Char} {x : Int} (hblanks : ∀ c ∈ blanks, isBlank c = true)
      (hfirst : Numeral first x) (hend : NoDigit rest)
      (hno : ¬ ∃ second y more, rest = 'x' :: (second ++ more) ∧ Numeral second y) :
      Reads (blanks ++ (first ++ rest)) [first] x x
  | two {blanks first second rest : List Char} {x y : Int}
      (hblanks : ∀ c ∈ blanks, isBlank c = true) (hfirst : Numeral first x)
      (hsecond : Numeral second y) (hend : NoDigit rest) :
      Reads (blanks ++ (first ++ 'x' :: (second ++ rest))) [first, second] x y

/-- Blanks and a `Numeral` stand in front. -/
def BeginsWithNumeral (cs : List Char) : Prop :=
  ∃ blanks m rest n, cs = blanks ++ (m ++ rest) ∧ (∀ c ∈ blanks, isBlank c = true) ∧ Numeral m n

/-- **A text is read as it stands for a resolution** (`Reads`), unless one of its numerals is too
    long. -/
theorem resolution_of_reads {text : String} {numerals : List (List Char)} {x y : Int}
    (h : Reads text.toList numerals x y) :
    resolution text =
      if ∀ m ∈ numerals, IsShortNumeral m then .ok (some (x, y)) else .error .badNumeral := by
  generalize hcs : text.toList = cs at h
  cases h with
  | @one blanks first rest x hblanks hfirst hend hno =>
    obtain ⟨found, hfound, hnumber⟩ := hfirst.leadingDigits_append hend
    rw [resolution, hcs, trimStart_append hblanks hfirst, hfound]
    simp only [hnumber, List.forall_mem_singleton]
    by_cases hshort : IsShortNumeral first
    · rw [if_pos hshort, if_pos hshort, ok_bind]
      split
      · rename_i more
        -- behind the `x` there is no second numeral, or the text would read as two
        have hnone : leadingDigits more = none := by
          rw [leadingDigits_eq_none_iff]
          rintro ⟨second, y, more', rfl, hsecond⟩
          exact hno ⟨second, y, more', rfl, hsecond⟩
        rw [hnone]
        rfl
      · rfl
    · rw [if_neg hshort, if_neg hshort]
      rfl
  | @two blanks first second rest x y hblanks hfirst hsecond hend =>
    have hx : NoDigit ('x' :: (second ++ rest)) := noDigit_cons (by decide) _
    obtain ⟨found, hfound, hnumber⟩ := hfirst.leadingDigits_append hx
    obtain ⟨found', hfound', hnumber'⟩ := hsecond.leadingDigits_append hend
    have hboth : (∀ m ∈ [first, second], IsShortNumeral m) ↔
        IsShortNumeral first ∧ IsShortNumeral second := by
      rw [List.forall_mem_cons, List.forall_mem_singleton]
    rw [resolution, hcs, trimStart_append hblanks hfirst, hfound]
    simp only [hnumber, hfound', hnumber', hboth]
    by_cases hshort : IsShortNumeral first
    · rw [if_pos hshort, ok_bind]
      -- the numerals are converted in their order, and the first one that is too long is the fault
      by_cases hshort' : IsShortNumeral second
      · rw [if_pos hshort', if_pos ⟨hshort, hshort'⟩]
        rfl
      · rw [if_neg hshort', if_neg fun h => hshort' h.2]
        rfl
    · have hlong : ¬ (IsShortNumeral first ∧ IsShortNumeral second) := fun h => hshort h.1
      rw [if_neg hshort, if_neg hlong]
      rfl

theorem Reads.begins {cs : List Char} {numerals : List (List Char)} {x y : Int}
    (h : Reads cs numerals x y) : BeginsWithNumeral cs := by
  cases h with
  | one hblanks hfirst => exact ⟨_, _, _, _, rfl, hblanks, hfirst⟩
  | two hblanks hfirst => exact ⟨_, _, _, _, rfl, hblanks, hfirst⟩

/-- **A text stands for a resolution, or it does not begin with a numeral** (`BeginsWithNumeral`)
    and is read as none. -/
theorem reads_or_none (text : String) :
    (∃ numerals x y, Reads text.toList numerals x y) ∨
      ¬ BeginsWithNumeral text.toList ∧ resolution text = .ok none := by
  obtain ⟨blanks, htext, hblanks⟩ := exists_blanks text.toList
  cases hread : leadingDigits (trimStart text.toList) with
  | none =>
    refine .inr ⟨?_, by rw [resolution, hread]⟩
    rintro ⟨blanks', m, rest, n, htext', hblanks', hm⟩
    rw [htext', trimStart_append hblanks' hm] at hread
    exact leadingDigits_eq_none_iff.1 hread ⟨m, n, rest, rfl, hm⟩
  | some read =>
    obtain ⟨found, rest⟩ := read
    obtain ⟨first, x, hfront, hfirst, hend⟩ := exists_numeral_of_leadingDigits hread
    rw [hfront] at htext
    rw [htext]
    by_cases hsecond : ∃ second y more, rest = 'x' :: (second ++ more) ∧ Numeral second y
    · obtain ⟨second, y, more, rfl, hm⟩ := hsecond
      obtain ⟨second', y', more', heq, hwhole, hend'⟩ := hm.exists_whole more
      rw [heq]
      exact .inl ⟨_, _, _, .two hblanks hfirst hwhole hend'⟩
    · exact .inl ⟨_, _, _, .one hblanks hfirst hend hsecond⟩

/-- A text comes to a resolution, to a numeral that is not an `IsShortNumeral`, or to none. -/
theorem resolution_cases (text : String) :
    (∃ numerals x y, Reads text.toList numerals x y ∧ (∀ m ∈ numerals, IsShortNumeral m) ∧
        resolution text = .ok (some (x, y))) ∨
      (∃ numerals x y, Reads text.toList numerals x y ∧ (∃ m ∈ numerals, ¬ IsShortNumeral m) ∧
        resolution text = .error .badNumeral) ∨
      ¬ BeginsWithNumeral text.toList ∧ resolution text = .ok none := by
  rcases reads_or_none text with ⟨numerals, x, y, hreads⟩ | hnone
  · have hread := resolution_of_reads hreads
    by_cases hshort : ∀ m ∈ numerals, IsShortNumeral m
    · rw [if_pos hshort] at hread
      exact .inl ⟨numerals, x, y, hreads, hshort, hread⟩
    · rw [if_neg hshort] at hread
      push Not at hshort
      exact .inr (.inl ⟨numerals, x, y, hreads, hshort, hread⟩)
  · exact .inr (.inr hnone)

/-- **Which texts are read as a resolution**: those that stand for it by `Reads`, with numerals that
    are not too long. -/
theorem resolution_eq_some_iff {text : String} {x y : Int} :
    resolution text = .ok (some (x, y)) ↔
      ∃ numerals, Reads text.toList numerals x y ∧ ∀ m ∈ numerals, IsShortNumeral m := by
  constructor
  · intro h
    rcases resolution_cases text with
      ⟨numerals, x', y', hreads, hshort, heq⟩ | ⟨_, _, _, -, -, heq⟩ | ⟨-, heq⟩
    · cases heq.symm.trans h
      exact ⟨numerals, hreads, hshort⟩
    · cases heq.symm.trans h
    · cases heq.symm.trans h
  · rintro ⟨numerals, hreads, hshort⟩
    rw [resolution_of_reads hreads, if_pos hshort]

/-- **Which texts are read as none**: those that do not begin with a numeral (`BeginsWithNumeral`),
    blanks apart. -/
theorem resolution_eq_none_iff {text : String} :
    resolution text = .ok none ↔ ¬ BeginsWithNumeral text.toList := by
  rcases resolution_cases text with
    ⟨_, _, _, hreads, -, heq⟩ | ⟨_, _, _, hreads, -, heq⟩ | ⟨hnot, heq⟩ <;> rw [heq]
  · exact iff_of_false nofun fun h => h hreads.begins
  · exact iff_of_false nofun fun h => h hreads.begins
  · exact iff_of_true rfl hnot

/-- **Which texts cannot be read**: those of which a numeral that is read is too long
    (`IsShortNumeral`). -/
theorem resolution_eq_error_iff {text : String} :
    resolution text = .error .badNumeral ↔
      ∃ numerals x y, Reads text.toList numerals x y ∧ ∃ m ∈ numerals, ¬ IsShortNumeral m := by
  constructor
  · intro h
    rcases resolution_cases text with
      ⟨_, _, _, -, -, heq⟩ | ⟨numerals, x, y, hreads, hlong, -⟩ | ⟨-, heq⟩
    · cases heq.symm.trans h
    · exact ⟨numerals, x, y, hreads, hlong⟩
    · cases heq.symm.trans h
  · rintro ⟨numerals, x, y, hreads, m, hm, hlong⟩
    rw [resolution_of_reads hreads, if_neg fun h => hlong (h m hm)]

/-! ## Texts of resolutions

  The texts that are written for resolutions are among those that are read, and are read as what
  they were written for. -/

/-- A number can be written if it is below the power of ten for `maxDigits`. -/
theorem isWritable_iff {n : Int} : isWritable n = true ↔ n.natAbs < 10 ^ maxDigits := by
  rw [isWritable, decide_eq_true_eq, Nat.pow_eq]

/-- The text of a resolution can be made exactly if both its numbers can be written
    (`isWritable`). -/
theorem resolutionText_eq_ok_iff {x y : Int} {text : String} :
    resolutionText (.int x) (.int y) = .ok text ↔
      isWritable x = true ∧ isWritable y = true ∧ resolutionName x y = text := by
  by_cases hxy : isWritable x = true ∧ isWritable y = true
  · rw [resolutionText_int hxy.1 hxy.2, Except.ok.injEq]
    exact ⟨fun h => ⟨hxy.1, hxy.2, h⟩, fun h => h.2.2⟩
  · have hlong : ¬ ((Json.int x).writable && (Json.int y).writable) = true := by
      rw [Bool.and_eq_true]
      exact hxy
    rw [resolutionText, if_neg hlong]
    refine iff_of_false ?_ fun h => hxy ⟨h.1, h.2.1⟩
    intro h
    cases h

/-- **Resolutions are read back from their texts, and a text is read as it stands.** The text of a
    resolution is there for numbers that are not too long, and is read as the resolution, so no two
    of these texts are alike.  Any text comes to one of three: a resolution, exactly if it stands
    for it (`Reads`) and its numerals are not too long; none, exactly if it does not begin with a
    numeral; a fault, exactly if a numeral that is read is too long. -/
theorem resolution_texts :
    -- what is written
    (∀ x y : Int, x.natAbs < 10 ^ maxDigits → y.natAbs < 10 ^ maxDigits →
      ∃ text, resolutionText (.int x) (.int y) = .ok text ∧
        resolution text = .ok (some (x, y))) ∧
    (∀ (x y x' y' : Int) (text : String), resolutionText (.int x) (.int y) = .ok text →
      resolutionText (.int x') (.int y') = .ok text → x = x' ∧ y = y') ∧
    -- what is read
    ∀ text : String,
      (∀ x y : Int, resolution text = .ok (some (x, y)) ↔
        ∃ numerals, Reads text.toList numerals x y ∧ ∀ m ∈ numerals, IsShortNumeral m) ∧
      (resolution text = .ok none ↔ ¬ BeginsWithNumeral text.toList) ∧
      (resolution text = .error .badNumeral ↔
        ∃ numerals x y, Reads text.toList numerals x y ∧ ∃ m ∈ numerals, ¬ IsShortNumeral m) := by
  refine ⟨?_, ?_, fun text =>
    ⟨fun x y => resolution_eq_some_iff, resolution_eq_none_iff, resolution_eq_error_iff⟩⟩
  · intro x y hx hy
    rw [← isWritable_iff] at hx hy
    exact ⟨_, resolutionText_int hx hy, resolution_resolutionName hx hy⟩
  · intro x y x' y' text h h'
    obtain ⟨hx, hy, rfl⟩ := resolutionText_eq_ok_iff.1 h
    obtain ⟨hx', hy', heq⟩ := resolutionText_eq_ok_iff.1 h'
    exact (resolutionName_inj hx hy hx' hy').1 heq.symm

/-- Numbers with a sign and zero are read back; the text of 300 by 600 is that of no other two
    numbers; and of an Arabic 3 that only an `x` follows, the 3 counts for both. -/
theorem resolution_texts_of_signs_and_scripts :
    (∃ text, resolutionText (.int (-600)) (.int 0) = .ok text ∧
      resolution text = .ok (some (-600, 0))) ∧
    (∀ x y : Int, resolutionText (.int x) (.int y) = .ok "300x600dpi" → x = 300 ∧ y = 600) ∧
    resolution " \u0663x" = .ok (some (3, 3)) := by
  have hshort : ∀ {n : Int}, n.natAbs < 10 ^ 3 → n.natAbs < 10 ^ maxDigits := fun h =>
    lt_of_lt_of_le h (Nat.pow_le_pow_right (by decide) (by decide))
  have h300 : resolutionText (.int 300) (.int 600) = .ok "300x600dpi" :=
    resolutionText_int (isWritable_iff.2 (hshort (by decide))) (isWritable_iff.2 (hshort (by decide)))
  have hthree : Numeral ['\u0663'] 3 := .plain (.one (by decide))
  have hreads : Reads " \u0663x".toList [['\u0663']] 3 3 := by
    have hblank : ∀ c ∈ [' '], isBlank c = true := List.all_eq_true.1 rfl
    refine .one hblank hthree (noDigit_cons (by decide) []) ?_
    rintro ⟨second, y, more, heq, hsecond⟩
    obtain ⟨c, cs, rfl, -⟩ := hsecond.head
    cases heq
  refine ⟨resolution_texts.1 (-600) 0 (hshort (by decide)) (hshort (by decide)),
    fun x y h => resolution_texts.2.1 x y 300 600 _ h h300,
    ((resolution_texts.2.2 _).1 3 3).2 ⟨_, hreads, by decide⟩⟩

end PrinterConsole.Form
