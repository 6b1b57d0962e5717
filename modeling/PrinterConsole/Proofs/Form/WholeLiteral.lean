/-
  Which texts are read as a whole number, and as which one.

  A literal is digits of any script with or without a sign in front, and single underscores may
  stand between the digits.  `Grouped` and `WholeLiteral` tell this without the reader, digit by
  digit from the left.  The reader takes the underscores out first; what it keeps of a literal are
  the digits of it (`Grouped.ungroup_append`), and where it keeps digits only the text was a
  literal (`Grouped.extend`).  A literal of too many digits is none; the underscores do not count.

  `Grouped` grows at the end while the reader goes from the front.  The two meet because both
  lemmas about the reader are stated for grouped digits with something behind them, so that the
  reader's state, whether a digit came last, is always known.

  Main statements: `readInt_trim_eq_some_iff`, and which texts name a job (`jobNumber_eq_iff`).
-/
import PrinterConsole.Proofs.Form.ResolutionText
import PrinterConsole.Proofs.Text.Split

namespace PrinterConsole.Form

open PrinterConsole.Number PrinterConsole.Text

/-! ## Literals

  The grammar of a whole number as a text: a sign or none, and digits of any script that may be
  grouped by single underscores. -/

/-- Digits with single underscores between them, and the natural that they denote, by
    `digitValue?`. -/
inductive Grouped : List Char → Nat → Prop where
  | one {c : Char} {d : Nat} (hc : digitValue? c = some d) : Grouped [c] d
  | more {cs : List Char} {n d : Nat} {c : Char} (hcs : Grouped cs n)
      (hc : digitValue? c = some d) : Grouped (cs ++ [c]) (10 * n + d)
  | group {cs : List Char} {n d : Nat} {c : Char} (hcs : Grouped cs n)
      (hc : digitValue? c = some d) : Grouped (cs ++ ['_', c]) (10 * n + d)

/-- A whole number as a literal: `Grouped` digits with or without a sign in front. -/
inductive WholeLiteral : List Char → Int → Prop where
  | plain {cs : List Char} {n : Nat} (h : Grouped cs n) : WholeLiteral cs n
  | plus {cs : List Char} {n : Nat} (h : Grouped cs n) : WholeLiteral ('+' :: cs) n
  | minus {cs : List Char} {n : Nat} (h : Grouped cs n) : WholeLiteral ('-' :: cs) (-n)

theorem isDigit_of_value {c : Char} {d : Nat} (h : digitValue? c = some d) :
    isDigit c = true := by
  rw [isDigit, h]
  rfl

theorem filter_digit {c : Char} {d : Nat} (hc : digitValue? c = some d) :
    [c].filter isDigit = [c] :=
  List.filter_cons_of_pos (isDigit_of_value hc)

theorem filter_group {c : Char} {d : Nat} (hc : digitValue? c = some d) :
    ['_', c].filter isDigit = [c] :=
  (List.filter_cons_of_neg (by decide)).trans (filter_digit hc)

/-- The digits of `Grouped` digits are a run of the same number: the underscores say nothing about
    it. -/
theorem Grouped.run {cs : List Char} {n : Nat} (h : Grouped cs n) : Run (cs.filter isDigit) n := by
  induction h with
  | one hc =>
    rw [filter_digit hc]
    exact .one hc
  | more _ hc ih =>
    rw [List.filter_append, filter_digit hc]
    exact .more ih hc
  | group _ hc ih =>
    rw [List.filter_append, filter_group hc]
    exact .more ih hc

/-- A run has no groups, so it is `Grouped` digits as it stands. -/
theorem Run.grouped {cs : List Char} {n : Nat} (h : Run cs n) : Grouped cs n := by
  induction h with
  | one hc => exact .one hc
  | more _ hc ih => exact .more ih hc

/-! ## Underscores

  The reader drops underscores one by one, and remembers whether a digit was before.  What is left
  has the same digits. -/

/-- The reader `ungroup.go` takes a digit as it is, wherever it stands, and has seen one then. -/
theorem go_digit {c : Char} (hc : isDigit c = true) (afterDigit : Bool) (rest : List Char) :
    ungroup.go afterDigit (c :: rest) = (ungroup.go true rest).map (c :: ·) := by
  have hne : c ≠ '_' := by
    rintro rfl
    exact absurd hc (by decide)
  rw [ungroup.go.eq_def]
  split
  · rename_i heq
    cases heq
  · rename_i heq
    cases heq
    exact absurd rfl hne
  · rename_i heq
    cases heq
    exact absurd rfl hne
  · rename_i heq
    cases heq
    rw [hc]

/-- The reader `ungroup.go` takes a digit behind an underscore, if a digit came before it. -/
theorem go_group {c : Char} (hc : isDigit c = true) (rest : List Char) :
    ungroup.go true ('_' :: c :: rest) = (ungroup.go true rest).map (c :: ·) := by
  rw [ungroup.go, hc]
  rfl

/-- **The reader `ungroup.go` keeps the digits of grouped digits**, and goes on behind them. -/
theorem Grouped.ungroup_append {cs : List Char} {n : Nat} (h : Grouped cs n) (afterDigit : Bool)
    (rest : List Char) :
    ungroup.go afterDigit (cs ++ rest) =
      (ungroup.go true rest).map (cs.filter isDigit ++ ·) := by
  have hassoc : ∀ (front : List Char) (c : Char) (found : Option (List Char)),
      (found.map (c :: ·)).map (front ++ ·) = found.map (front ++ [c] ++ ·) := by
    intro front c found
    cases found with
    | none => rfl
    | some ds => exact congrArg some (List.append_assoc front [c] ds).symm
  induction h generalizing rest with
  | one hc =>
    rw [filter_digit hc]
    exact go_digit (isDigit_of_value hc) afterDigit rest
  | more _ hc ih =>
    rw [List.append_assoc, ih, List.singleton_append, go_digit (isDigit_of_value hc), hassoc,
      List.filter_append, filter_digit hc]
  | group _ hc ih =>
    rw [List.append_assoc, ih, List.cons_append, List.singleton_append,
      go_group (isDigit_of_value hc), hassoc, List.filter_append, filter_group hc]

/-- **`Grouped` digits go on as such** as long as the reader keeps digits only. -/
theorem Grouped.extend {front cs ds : List Char} {n : Nat} (h : Grouped front n)
    (hgo : ungroup.go true cs = some ds) (hds : ∀ c ∈ ds, isDigit c = true) :
    ∃ m, Grouped (front ++ cs) m := by
  generalize hb : true = b at hgo
  induction b, cs using ungroup.go.induct generalizing front n ds with
  | case1 b => exact ⟨n, by rwa [List.append_nil]⟩
  | case2 b c rest hdigit ih =>
    rw [ungroup.go, if_pos hdigit] at hgo
    obtain ⟨ds', hds', rfl⟩ := Option.map_eq_some_iff.1 hgo
    obtain ⟨d, hd⟩ := Option.isSome_iff_exists.1 (Bool.and_eq_true_iff.1 hdigit).2
    -- a digit behind an underscore opens a group
    obtain ⟨m, hm⟩ := ih (h.group hd) (List.forall_mem_cons.1 hds).2 rfl hds'
    rw [List.append_assoc] at hm
    exact ⟨m, hm⟩
  | case3 b c rest hdigit =>
    rw [ungroup.go, if_neg hdigit] at hgo
    cases hgo
  | case4 b => cases hgo
  | case5 b c rest hpair hlast ih =>
    rw [ungroup.go] at hgo
    · obtain ⟨ds', hds', rfl⟩ := Option.map_eq_some_iff.1 hgo
      rw [List.forall_mem_cons] at hds
      obtain ⟨d, hd⟩ := Option.isSome_iff_exists.1 hds.1
      -- a digit behind a digit goes on with the group
      obtain ⟨m, hm⟩ := ih (h.more hd) hds.2 hds.1.symm hds'
      rw [List.append_assoc] at hm
      exact ⟨m, hm⟩
    · exact hpair
    · exact hlast

/-- Where the reader keeps digits only, and some, the text is `Grouped` digits. -/
theorem exists_grouped {cs ds : List Char} (hgo : ungroup.go false cs = some ds) (hne : ds ≠ [])
    (hds : ∀ c ∈ ds, isDigit c = true) : ∃ n, Grouped cs n := by
  rw [ungroup.go.eq_def] at hgo
  split at hgo
  · cases hgo
    exact absurd rfl hne
  · cases hgo
  · cases hgo
  · rename_i c rest _ _
    obtain ⟨ds', hds', rfl⟩ := Option.map_eq_some_iff.1 hgo
    rw [List.forall_mem_cons] at hds
    obtain ⟨d, hd⟩ := Option.isSome_iff_exists.1 hds.1
    rw [hds.1] at hds'
    exact (Grouped.one hd).extend hds' hds.2

/-! ## The reader

  The reader drops underscores, then the sign, and converts what is left if it is all digits.  Each
  of these steps is undone by the grammar, so it reads the literals and nothing else. -/

theorem digitRun_of_digits {ds : List Char} (h : ∀ c ∈ ds, isDigit c = true) :
    digitRun ds = (values ds, []) := by
  obtain ⟨htake, hdrop⟩ := takeWhile_append_of_noDigit (fun _ hc => hc) h noDigit_nil
  rw [List.append_nil] at htake hdrop
  rw [digitRun, htake, hdrop]
  rfl

theorem Grouped.ungroup_eq {ds : List Char} {n : Nat} (h : Grouped ds n) :
    ungroup.go false ds = some (ds.filter isDigit) := by
  have hgo := h.ungroup_append false []
  rw [List.append_nil] at hgo
  rw [hgo]
  exact congrArg some (List.append_nil _)

/-- What `readInt` makes of a sign and grouped digits, once the underscores are out. -/
theorem readInt_of_signed (negative : Bool) {cs ds body : List Char} {n : Nat}
    (hstrip : stripNumeral cs = cs) (hungroup : ungroup cs = some body)
    (hsigned : signed body = (negative, ds.filter isDigit)) (hds : Grouped ds n)
    (hcount : cs.countP isDigit = ds.countP isDigit) :
    readInt cs = if IsShortNumeral cs then some (if negative then -(n : Int) else n) else none := by
  obtain ⟨-, hdigits, -⟩ := hds.run.spec
  have hshort : IsShortNumeral cs ↔ (ds.filter isDigit).countP isDigit ≤ maxDigits := by
    rw [List.countP_filter]
    simp only [Bool.and_self, ← hcount]
    exact Iff.rfl
  rw [readInt, hstrip, hungroup]
  simp only [Option.bind_eq_bind, Option.bind_some, hsigned, digitRun_of_digits hdigits,
    wholeOf_run hds.run, hshort]

/-- **A `WholeLiteral` is read as its number**, unless it has too many digits. -/
theorem readInt_of_literal {cs : List Char} {n : Int} (h : WholeLiteral cs n)
    (hstrip : stripNumeral cs = cs) :
    readInt cs = if IsShortNumeral cs then some n else none := by
  -- a sign is passed over, and an underscore may not follow it
  have hbehind : ∀ {sign : Char} {ds : List Char} {k : Nat}, ungroup.go false (sign :: ds) =
      (ungroup.go false ds).map (sign :: ·) → Grouped ds k →
        ungroup (sign :: ds) = some (sign :: ds.filter isDigit) := by
    intro sign ds k hsign hds
    rw [ungroup, hsign, hds.ungroup_eq]
    rfl
  cases h with
  | plain h =>
    refine readInt_of_signed false hstrip h.ungroup_eq ?_ h rfl
    obtain ⟨hne, hdigits, -⟩ := h.run.spec
    obtain ⟨c, more, hcs⟩ := List.exists_cons_of_ne_nil hne
    rw [hcs] at hdigits ⊢
    exact signed_of_isDigit (hdigits c List.mem_cons_self) more
  | plus h =>
    exact readInt_of_signed false hstrip (hbehind rfl h) rfl h
      (List.countP_cons_of_neg (by decide))
  | minus h =>
    exact readInt_of_signed true hstrip (hbehind rfl h) rfl h
      (List.countP_cons_of_neg (by decide))

/-- `ungroup` drops underscores between digits alone, so a sign in what is left stood in front of
    the text. -/
theorem exists_behind_sign {cs ds : List Char} {sign : Char} (hsign : isDigit sign = false)
    (h : ungroup.go false cs = some (sign :: ds)) :
    ∃ more, cs = sign :: more ∧ ungroup.go false more = some ds := by
  rw [ungroup.go.eq_def] at h
  split at h
  · cases h
  · cases h
  · cases h
  · rename_i c rest _ _
    obtain ⟨ds', hds', heq⟩ := Option.map_eq_some_iff.1 h
    obtain ⟨rfl, rfl⟩ := List.cons.inj heq
    rw [hsign] at hds'
    exact ⟨rest, rfl, hds'⟩

/-- What is read as a whole number is a `WholeLiteral`. -/
theorem exists_literal_of_readInt {cs : List Char} {n : Int} (hstrip : stripNumeral cs = cs)
    (h : readInt cs = some n) : ∃ m, WholeLiteral cs m := by
  rw [readInt, hstrip] at h
  obtain ⟨body, hbody, h⟩ := Option.bind_eq_some_iff.1 h
  -- behind the sign there are digits only, and some
  have hdigits : (signed body).2 ≠ [] ∧ ∀ c ∈ (signed body).2, isDigit c = true := by
    dsimp only at h
    split at h
    · rename_i ds heq
      rw [digitRun, Prod.mk.injEq] at heq
      refine ⟨?_, List.dropWhile_eq_nil_iff.1 heq.2⟩
      intro hnil
      rw [hnil] at heq
      rw [← heq.1] at h
      cases h
    · cases h
  obtain ⟨hne, hds⟩ := hdigits
  generalize hs : signed body = s at hne hds
  rw [signed.eq_def] at hs
  split at hs
  · cases hs
    obtain ⟨more, rfl, hmore⟩ := exists_behind_sign (by decide) hbody
    obtain ⟨m, hm⟩ := exists_grouped hmore hne hds
    exact ⟨m, .plus hm⟩
  · cases hs
    obtain ⟨more, rfl, hmore⟩ := exists_behind_sign (by decide) hbody
    obtain ⟨m, hm⟩ := exists_grouped hmore hne hds
    exact ⟨-m, .minus hm⟩
  · cases hs
    obtain ⟨m, hm⟩ := exists_grouped hbody hne hds
    exact ⟨m, .plain hm⟩

/-! ## Texts that name numbers

  A text names a number (`Names`) if it is a literal of it, blanks at its ends apart, and not too
  long to be converted. -/

/-- A text that was trimmed has nothing more to be stripped: all that `stripNumeral` drops is
    blank. -/
theorem stripNumeral_trim (cs : List Char) : stripNumeral (trim cs) = trim cs := by
  have hspace : ∀ {c : Char}, isBlank c = false → isNumeralSpace c = false := by
    intro c hc
    rw [isNumeralSpace, hc]
    rfl
  have hfront : (trim cs).dropWhile isNumeralSpace = trim cs :=
    dropWhile_of_head fun _ _ h => hspace (head_trim_not_blank h)
  have hback : (trim cs).reverse.dropWhile isNumeralSpace = (trim cs).reverse :=
    dropWhile_of_head fun _ _ h => hspace (last_trim_not_blank h)
  rw [stripNumeral, hfront, hback, List.reverse_reverse]

/-- The `text` names the number `n`: without the blanks around it, it is a literal that is not too
    long. -/
def Names (text : String) (n : Int) : Prop :=
  WholeLiteral (trim text.toList) n ∧ IsShortNumeral (trim text.toList)

/-- **Which texts are read as a whole number**: those that `Names` says, whatever blanks stand
    around. -/
theorem readInt_trim_eq_some_iff {text : String} {n : Int} :
    readInt (trim text.toList) = some n ↔ Names text n := by
  have hstrip := stripNumeral_trim text.toList
  constructor
  · intro h
    obtain ⟨m, hm⟩ := exists_literal_of_readInt hstrip h
    rw [readInt_of_literal hm hstrip] at h
    split at h
    · rename_i hshort
      obtain rfl := Option.some.inj h
      exact ⟨hm, hshort⟩
    · cases h
  · rintro ⟨hm, hshort⟩
    rw [readInt_of_literal hm hstrip, if_pos hshort]

/-- **Which texts name a job**: literals of positive numbers (`Names`). -/
theorem jobNumber_eq_iff {text : Option String} {n : Int} (hn : n ≠ 0) :
    jobNumber text = n ↔ 0 < n ∧ ∃ t, text = some t ∧ Names t n := by
  cases text with
  | none =>
    refine iff_of_false hn.symm ?_
    rintro ⟨-, t, htext, -⟩
    cases htext
  | some t =>
    have hread : ∀ k, readInt (trim t.toList) = some k ↔ Names t k :=
      fun _ => readInt_trim_eq_some_iff
    simp only [jobNumber, Option.bind_some, Option.some.injEq, exists_eq_left']
    cases hvalue : readInt (trim t.toList) with
    | none =>
      refine iff_of_false hn.symm fun h => ?_
      rw [(hread n).2 h.2] at hvalue
      cases hvalue
    | some k =>
      rw [← hread, hvalue, Option.some.injEq]
      show max k 0 = n ↔ 0 < n ∧ k = n
      omega

/-! ## Written numbers

  A positive number is written in digits alone, which is a literal; it names the number as long as
  it is short enough. -/

theorem digits_toDigits (n : Nat) : ∀ c ∈ Nat.toDigits 10 n, isDigit c = true :=
  fun c hc => isDigit_of_ascii (ascii_toDigits n c hc)

theorem trim_toDigits (n : Nat) : trim (Nat.toDigits 10 n) = Nat.toDigits 10 n := by
  have hdigit : ∀ c ∈ Nat.toDigits 10 n, isBlank c = false :=
    fun c hc => isBlank_of_isDigit (digits_toDigits n c hc)
  refine trim_eq_self (fun c more h => hdigit c ?_) fun c more h => hdigit c ?_
  · exact h ▸ List.mem_cons_self
  · exact List.mem_reverse.1 (h ▸ List.mem_cons_self)

theorem grouped_toDigits (n : Nat) : Grouped (Nat.toDigits 10 n) n := by
  obtain ⟨m, hm⟩ := run_of_digits Nat.toDigits_ne_nil (digits_toDigits n)
  obtain ⟨-, -, hvalue⟩ := hm.spec
  rw [values, digitsValue_toDigits] at hvalue
  exact hvalue ▸ hm.grouped

/-- **The decimal text of a number `Names` it** exactly if it is not too long. -/
theorem names_natText_iff (n : Nat) : Names (natText n) n ↔ n < 10 ^ maxDigits := by
  have hcount : (Nat.toDigits 10 n).countP isDigit = (Nat.toDigits 10 n).length :=
    List.countP_eq_length.2 (digits_toDigits n)
  rw [Names, toList_natText, trim_toDigits, and_iff_right (.plain (grouped_toDigits n))]
  show (Nat.toDigits 10 n).countP isDigit ≤ maxDigits ↔ _
  rw [hcount, Nat.length_toDigits_le_iff (by decide) (by decide)]

end PrinterConsole.Form
