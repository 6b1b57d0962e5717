/-
  Which texts cannot be cleaned.

  Replacing references fails in one way only: a decimal number behind `&#` has more digits than a
  whole number may have (`maxDigits`).  Such a number is a run of digits that stands in the text
  (`HasLongReference`).

  References are read from left to right, and what a `reference` takes from the text holds no
  ampersand besides its own (`reference_spec`); so every ampersand of the text is come to, and
  such a number is found wherever it stands.  The induction of `resolve_isOk_iff` is on the length
  of what is left to read, since a reference takes more than one character.

  Main statements: the references of a text can be read exactly if there is no such number in it
  (`resolve_isOk_iff`), and so for cleaning and what is left of the text without its markup
  (`clean_isOk_iff`).
-/
import PrinterConsole.Proofs.Fault
import PrinterConsole.Proofs.Markup.Clean

namespace PrinterConsole.Markup

open PrinterConsole.Number PrinterConsole.Text

/-- A reference by a decimal number of more than `maxDigits` digits stands somewhere in the text. -/
def HasLongReference (cs : List Char) : Prop :=
  ∃ run, '&' :: '#' :: run <:+: cs ∧ (∀ c ∈ run, isAsciiDigit c = true) ∧ maxDigits < run.length

/-- A reference that stands in a part `cs` of the text `ds` stands in the text. -/
theorem HasLongReference.mono {cs ds : List Char} (h : HasLongReference cs) (hsub : cs <:+: ds) :
    HasLongReference ds := by
  obtain ⟨run, hrun, hdigits, hlong⟩ := h
  exact ⟨run, hrun.trans hsub, hdigits, hlong⟩

/-! ## What a reference takes

  A reference fails for a number of too many digits only.  What it takes, if it does not fail, has
  no beginning of another reference in it. -/

/-- A character `d` of which `p` does not hold is not in a run of characters of which `p` holds. -/
theorem notMem_of_forall {p : Char → Bool} {d : Char} {cs : List Char} (hp : p d = false)
    (h : ∀ c ∈ cs, p c = true) : d ∉ cs := by
  intro hmem
  have htrue := h d hmem
  rw [hp] at htrue
  cases htrue

/-- A run and the semicolon behind it, which `dropSemicolon` takes away, hold no ampersand. -/
theorem exists_takeWhile_semicolon {p : Char → Bool} (hp : p '&' = false) (cs : List Char) :
    ∃ taken, taken ++ dropSemicolon (cs.dropWhile p) = cs ∧ '&' ∉ taken := by
  have hrun : '&' ∉ cs.takeWhile p := notMem_of_forall hp fun c hc => List.mem_takeWhile_imp hc
  have hsplit : cs.takeWhile p ++ cs.dropWhile p = cs := List.takeWhile_append_dropWhile
  unfold dropSemicolon
  split
  · rename_i rest hrest
    refine ⟨cs.takeWhile p ++ [';'], ?_, ?_⟩
    · rw [List.append_assoc, List.singleton_append, ← hrest, hsplit]
    · rw [List.mem_append, not_or]
      exact ⟨hrun, by decide⟩
  · exact ⟨cs.takeWhile p, hsplit, hrun⟩

/-- What `nameReference` takes from the text holds no ampersand, since neither a name nor a
    semicolon is one. -/
theorem exists_nameReference (cs : List Char) :
    ∃ taken, taken ++ (nameReference cs).2 = cs ∧ '&' ∉ taken := by
  let name := (cs.take 32).takeWhile isNameChar
  have hname : '&' ∉ name := notMem_of_forall (by decide) fun c hc => List.mem_takeWhile_imp hc
  have hprefix : name <+: cs := (List.takeWhile_prefix _).trans (List.take_prefix _ _)
  have hsplit : name ++ cs.drop name.length = cs := List.prefix_append_drop hprefix |>.symm
  show ∃ taken, taken ++ (if (cs.drop name.length).head? == some ';'
    then (cs.drop name.length).drop 1 else cs.drop name.length) = cs ∧ '&' ∉ taken
  by_cases hclosed : ((cs.drop name.length).head? == some ';') = true
  · rw [if_pos hclosed]
    obtain ⟨rest, hrest⟩ : ∃ rest, cs.drop name.length = ';' :: rest := by
      rcases hdrop : cs.drop name.length with - | ⟨c, rest⟩
      · rw [hdrop] at hclosed
        cases hclosed
      · rw [hdrop] at hclosed
        exact ⟨rest, by rw [show c = ';' by simpa using hclosed]⟩
    refine ⟨name ++ [';'], ?_, ?_⟩
    · rw [hrest, List.drop_one, List.tail_cons, List.append_assoc, List.singleton_append, ← hrest,
        hsplit]
    · rw [List.mem_append, not_or]
      exact ⟨hname, by decide⟩
  · rw [if_neg hclosed]
    exact ⟨name, hsplit, hname⟩

/-- **What a `reference` takes from the text holds no ampersand**, whether it is by a name or by a
    number. -/
theorem reference_spec {cs value left : List Char} (h : reference cs = .ok (value, left)) :
    ∃ taken, taken ++ left = cs ∧ '&' ∉ taken := by
  -- a mark in front of what is taken changes nothing of that
  have hcons : ∀ {c : Char} {ds : List Char}, c ≠ '&' →
      (∃ taken, taken ++ left = ds ∧ '&' ∉ taken) →
        ∃ taken, taken ++ left = c :: ds ∧ '&' ∉ taken := by
    rintro c ds hc ⟨taken, rfl, hnone⟩
    refine ⟨c :: taken, rfl, ?_⟩
    rw [List.mem_cons, not_or]
    exact ⟨Ne.symm hc, hnone⟩
  unfold reference at h
  split at h
  · split at h
    · split at h
      · cases h
        exact hcons (by decide) (exists_takeWhile_semicolon (by decide) _)
      · cases h
    · split at h
      · split at h
        · rename_i hx
          cases h
          refine hcons (by decide) (hcons ?_ (exists_takeWhile_semicolon (by decide) _))
          rcases hx.1 with rfl | rfl <;> decide
        · cases h
          exact ⟨[], rfl, List.not_mem_nil⟩
      · cases h
        exact ⟨[], rfl, List.not_mem_nil⟩
  · split at h
    · obtain ⟨taken, hsplit, hnone⟩ := exists_nameReference cs
      have hleft : (nameReference cs).2 = left := congrArg Prod.snd (Except.ok.inj h)
      exact ⟨taken, hleft ▸ hsplit, hnone⟩
    · cases h
      exact ⟨[], rfl, List.not_mem_nil⟩

/-- **A `reference` is refused exactly if it is by a number of too many digits**, that is, by a
    `run` of more than `maxDigits` of them behind its `#`. -/
theorem reference_eq_error_iff {cs : List Char} :
    (∃ e, reference cs = .error e) ↔
      ∃ run, '#' :: run <+: cs ∧ (∀ c ∈ run, isAsciiDigit c = true) ∧ maxDigits < run.length := by
  constructor
  · rintro ⟨e, he⟩
    unfold reference at he
    split at he
    · rename_i rest
      split at he
      · rename_i d ds hrun
        split at he
        · cases he
        · rename_i hnone
          have hdigits : ∀ c ∈ d :: ds, isAsciiDigit c = true := by
            intro c hc
            rw [← hrun] at hc
            exact List.mem_takeWhile_imp hc
          have hlong := wholeOf_eq_none_iff.1 hnone
          change values (d :: ds) = [] ∨ maxDigits < (values (d :: ds)).length at hlong
          rw [← List.length_eq_zero_iff, length_values hdigits, List.length_cons] at hlong
          refine ⟨d :: ds, ?_, hdigits, by rw [List.length_cons]; omega⟩
          rw [← hrun, List.prefix_cons_inj]
          exact List.takeWhile_prefix _
      · split at he
        · split at he <;> cases he
        · cases he
    · split at he <;> cases he
  · rintro ⟨run, ⟨back, hback⟩, hdigits, hlong⟩
    subst hback
    -- the digits that are read are at least those of the run
    have hrun : run.length ≤ ((run ++ back).takeWhile isAsciiDigit).length := by
      rw [List.takeWhile_append_of_pos hdigits, List.length_append]
      exact Nat.le_add_right _ _
    have hread : ∀ c ∈ (run ++ back).takeWhile isAsciiDigit, isAsciiDigit c = true :=
      fun c hc => List.mem_takeWhile_imp hc
    rcases htake : (run ++ back).takeWhile isAsciiDigit with - | ⟨d, ds⟩
    · rw [htake, List.length_nil] at hrun
      omega
    · have hnone : wholeOf false ((d :: ds).filterMap digitValue?) = none := by
        rw [wholeOf_eq_none_iff]
        right
        show maxDigits < (values (d :: ds)).length
        rw [htake] at hrun hread
        rw [length_values hread]
        omega
      refine ⟨.badNumeral, ?_⟩
      show reference ('#' :: (run ++ back)) = _
      simp only [reference, htake, hnone]

/-! ## Texts

  Reading fails exactly if it comes upon a reference that fails, as it goes on behind each of the
  others. -/

/-- No long reference begins in a `front` without an ampersand. -/
theorem hasLongReference_append {front back : List Char} (hfront : '&' ∉ front) :
    HasLongReference (front ++ back) ↔ HasLongReference back := by
  constructor
  · rintro ⟨run, ⟨before, after, hsplit⟩, hdigits, hlong⟩
    refine ⟨run, ?_, hdigits, hlong⟩
    rw [List.append_assoc] at hsplit
    -- the ampersand of the reference is not in front
    rcases List.append_eq_append_iff.1 hsplit with ⟨more, hmore, hback⟩ | ⟨more, hmore, hback⟩
    · rcases more with - | ⟨c, more⟩
      · exact ⟨[], after, hback⟩
      · exfalso
        rw [List.cons_append, List.cons_append] at hback
        obtain rfl : '&' = c := (List.cons.inj hback).1
        exact hfront (by rw [hmore]; simp)
    · exact ⟨more, after, by rw [hback, List.append_assoc]⟩
  · intro h
    exact h.mono (List.suffix_append front back).isInfix

/-- At an ampersand a long reference begins, or there is one in the `rest`. -/
theorem hasLongReference_ampersand {rest : List Char} :
    HasLongReference ('&' :: rest) ↔ (∃ e, reference rest = .error e) ∨ HasLongReference rest := by
  constructor
  · rintro ⟨run, hrun, hdigits, hlong⟩
    rcases List.infix_cons_iff.1 hrun with hprefix | hinfix
    · left
      rw [reference_eq_error_iff]
      exact ⟨run, (List.prefix_cons_inj _).1 hprefix, hdigits, hlong⟩
    · right
      exact ⟨run, hinfix, hdigits, hlong⟩
  · rintro (herror | hrest)
    · obtain ⟨run, hprefix, hdigits, hlong⟩ := reference_eq_error_iff.1 herror
      exact ⟨run, ((List.prefix_cons_inj _).2 hprefix).isInfix, hdigits, hlong⟩
    · exact hrest.mono (List.suffix_cons _ _).isInfix

/-- **`resolve` reads the references of a text exactly if none is by a number of too many
    digits.** -/
theorem resolve_isOk_iff {cs : List Char} : (∃ plain, resolve cs = .ok plain) ↔
    ¬ HasLongReference cs := by
  -- the induction is on the length: a reference may take any number of characters
  induction hn : cs.length using Nat.strongRecOn generalizing cs with
  | ind n ih =>
    subst hn
    rcases cs with - | ⟨c, rest⟩
    · refine iff_of_true ⟨[], resolve_nil⟩ ?_
      rintro ⟨run, hrun, -, -⟩
      cases List.eq_nil_of_infix_nil hrun
    · by_cases hc : c = '&'
      · subst hc
        rw [hasLongReference_ampersand, not_or]
        cases href : reference rest with
        | error e =>
          refine iff_of_false ?_ fun h => h.1 ⟨e, rfl⟩
          rintro ⟨plain, hplain⟩
          rw [resolve_ampersand_error href] at hplain
          cases hplain
        | ok found =>
          obtain ⟨value, left⟩ := found
          obtain ⟨taken, rfl, htaken⟩ := reference_spec href
          have hleft : (∃ plain, resolve left = .ok plain) ↔ ¬ HasLongReference left :=
            ih left.length (by rw [List.length_cons, List.length_append]; omega) rfl
          rw [resolve_ampersand href, hasLongReference_append htaken, ← hleft]
          simp only [map_eq_ok]
          constructor
          · rintro ⟨-, plain, hplain, -⟩
            refine ⟨?_, plain, hplain⟩
            rintro ⟨e, he⟩
            cases he
          · rintro ⟨-, plain, hplain⟩
            exact ⟨_, plain, hplain, rfl⟩
      · have hrest : (∃ plain, resolve rest = .ok plain) ↔ ¬ HasLongReference rest :=
          ih rest.length (by simp) rfl
        have hfront : '&' ∉ [c] := by simpa using Ne.symm hc
        have hskip : HasLongReference (c :: rest) ↔ HasLongReference rest :=
          hasLongReference_append hfront
        rw [resolve_cons_of_ne hc, hskip, ← hrest]
        simp only [map_eq_ok]
        constructor
        · rintro ⟨-, plain, hplain, -⟩
          exact ⟨plain, hplain⟩
        · rintro ⟨plain, hplain⟩
          exact ⟨_, plain, hplain, rfl⟩

/-! ## Cleaning

  What is read after the scan was written by it, so long references are looked for in that text. -/

/-- The text has a reference of too many digits once its markup is dropped: `withoutTags` is what
    `clean` reads references in. -/
def IsUncleanable (text : String) : Prop := HasLongReference (withoutTags (trim text.toList))

/-- **A text can be cleaned exactly if no reference of too many digits is left of it without its
    markup**, whatever the `limit`. -/
theorem clean_isOk_iff {limit : Nat} {text : String} :
    (∃ plain, clean limit text = .ok plain) ↔ ¬ IsUncleanable text := by
  unfold IsUncleanable
  rw [← resolve_isOk_iff]
  unfold clean
  dsimp only
  by_cases hempty : (trim text.toList).isEmpty = true
  · rw [if_pos hempty, List.isEmpty_iff.1 hempty]
    exact iff_of_true ⟨_, rfl⟩ ⟨[], resolve_nil⟩
  · rw [if_neg hempty]
    constructor
    · rintro ⟨plain, h⟩
      obtain ⟨cs, hcs, -⟩ := bind_eq_ok.1 h
      exact ⟨cs, hcs⟩
    · rintro ⟨cs, hcs⟩
      exact ⟨_, bind_eq_ok.2 ⟨cs, hcs, rfl⟩⟩

/-- A text of no more than `maxDigits` characters can be cleaned, for no number in it is too
    long. -/
theorem not_isUncleanable {text : String} (h : text.length ≤ maxDigits) : ¬ IsUncleanable text :=
  clean_isOk_iff.1 (exists_clean 0 h)

end PrinterConsole.Markup
