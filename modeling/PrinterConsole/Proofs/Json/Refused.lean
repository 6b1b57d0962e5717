/-
  What a text must hold for the reader to refuse it for a long numeral.

  A reader goes through the text from left to right and gives back what follows, so whatever it
  meets stands in the text.  The one refusal that is not for the form of the text is that of a
  whole number with too many digits; such a number is a run of digits, and that run stands in the
  text too (`HasLongRun`).

  The induction is on the fuel of the readers (`ReadsOn`); what it carries about each reader
  (`Leaves`) is both halves at once, since the second reader of a list starts where the first one
  stopped.  For the readers of tokens only the first half is needed, that what follows stands
  behind: these are the lemmas `suffix_…`.

  Main statements: a text that is refused for a numeral has a long run of digits in it
  (`hasLongRun_of_read`), and a long numeral on its own always is refused (`read_longNumeral`).
-/
import PrinterConsole.Proofs.Json.RoundTrip

namespace PrinterConsole.Json

open PrinterConsole.Number PrinterConsole.Text

/-! ## Runs of digits

  A numeral is refused if its run of digits is too long, and such a run stands in the text as it is.
  A reader that fails for that reason `Leaves` the run in what it was given. -/

/-- A run of more ASCII digits than a whole number may have (`maxDigits`) stands somewhere in the
    text. -/
def HasLongRun (cs : List Char) : Prop :=
  ∃ run, run <:+: cs ∧ (∀ c ∈ run, isAsciiDigit c = true) ∧ maxDigits < run.length

theorem HasLongRun.mono {cs ds : List Char} (h : HasLongRun cs) (hsub : cs <:+: ds) :
    HasLongRun ds := by
  obtain ⟨run, hrun, hdigits, hlong⟩ := h
  exact ⟨run, hrun.trans hsub, hdigits, hlong⟩

/-- What a reader leaves of the text `cs`: what follows stands at its end, and a numeral that it
    refuses stands in it. -/
def Leaves (cs : List Char) : Except Refusal (Json × List Char) → Prop
  | .ok (_, rest) => rest <:+ cs
  | .error .longNumeral => HasLongRun cs
  | .error .malformed => True

theorem Leaves.mono {cs ds : List Char} (hsub : cs <:+ ds) :
    ∀ {r : Except Refusal (Json × List Char)}, Leaves cs r → Leaves ds r
  | .ok (_, _), h => List.IsSuffix.trans h hsub
  | .error .longNumeral, h => HasLongRun.mono h hsub.isInfix
  | .error .malformed, _ => trivial

/-! ## Tokens

  Every token is read off the front, so what is left is an end of the text, and a run in it is a run
  of the text. -/

theorem skipSpace_suffix (cs : List Char) : skipSpace cs <:+ cs := List.dropWhile_suffix _

theorem suffix_of_cons {c : Char} {rest cs : List Char} (h : c :: rest <:+ cs) : rest <:+ cs :=
  (List.suffix_cons c rest).trans h

/-- What follows a string stands behind it: `stringUnits` walks to the closing quote. -/
theorem suffix_of_stringUnits {acc us : List Nat} {cs rest : List Char}
    (h : stringUnits acc cs = some (us, rest)) : rest <:+ cs := by
  fun_induction stringUnits acc cs with
  | case1 acc more =>
    cases h
    exact ⟨['"'], rfl⟩
  | case2 acc a b c d more _ ih => exact (ih h).trans ⟨['\\', 'u', a, b, c, d], rfl⟩
  | case4 acc c more _ u _ ih => exact (ih h).trans ⟨['\\', c], rfl⟩
  | case7 acc c more _ _ _ _ ih => exact (ih h).trans (List.suffix_cons c more)
  | case3 | case5 | case6 | case8 => cases h

/-- A string is read off the front of a text. -/
theorem suffix_of_readString {cs rest : List Char} {s : String}
    (h : readString cs = .ok (s, rest)) : rest <:+ cs := by
  unfold readString at h
  split at h
  · rename_i hunits
    cases h
    exact suffix_of_stringUnits hunits
  · cases h

/-- A string is refused by `readString` for its form only. -/
theorem leaves_readString_error {cs ds : List Char} {e : Refusal} (h : readString cs = .error e) :
    Leaves ds (.error e) := by
  unfold readString at h
  split at h <;> cases h
  trivial

/-! ## Numbers -/

theorem suffix_fractionPart (cs : List Char) : (fractionPart cs).2 <:+ cs := by
  unfold fractionPart
  split
  · split
    · exact List.suffix_refl _
    · exact (List.dropWhile_suffix _).trans (List.suffix_cons _ _)
  · exact List.suffix_refl _

/-- An exponent is read off the front of a text. -/
theorem suffix_exponentText (cs : List Char) : (exponentText cs).2 <:+ cs := by
  rcases cs with - | ⟨c, rest⟩
  · exact List.suffix_refl _
  · unfold exponentText
    dsimp only
    split
    · split
      · exact List.suffix_refl _
      · refine (List.dropWhile_suffix _).trans ((List.drop_suffix _ _).trans ?_)
        exact List.suffix_cons _ _
    · exact List.suffix_refl _

/-- What `wholePart` takes is a run of digits, and what follows it stands behind it. -/
theorem wholePart_spec (cs : List Char) :
    (wholePart cs).1 ++ (wholePart cs).2 = cs ∧
      ∀ c ∈ (wholePart cs).1, isAsciiDigit c = true := by
  unfold wholePart
  split
  · refine ⟨rfl, fun c hc => ?_⟩
    rw [List.mem_singleton.1 hc]
    rfl
  · exact ⟨List.takeWhile_append_dropWhile, fun c hc => List.mem_takeWhile_imp hc⟩

/-- **A number is refused for its length only if its whole part is too long**; the whole part is
    then the run (`HasLongRun`). -/
theorem leaves_readNumber (negative : Bool) (cs : List Char) :
    Leaves cs (readNumber negative cs) := by
  obtain ⟨hsplit, hdigits⟩ := wholePart_spec cs
  have hrest : (exponentText (fractionPart (wholePart cs).2).2).2 <:+ cs := by
    refine (suffix_exponentText _).trans ((suffix_fractionPart _).trans ?_)
    exact ⟨_, hsplit⟩
  unfold readNumber
  dsimp only
  split
  · trivial
  · rename_i hempty
    split
    · split
      · exact hrest
      · rename_i hnone
        refine ⟨(wholePart cs).1, ⟨[], (wholePart cs).2, hsplit⟩, hdigits, ?_⟩
        have hlength : (values (wholePart cs).1).length = (wholePart cs).1.length :=
          length_values hdigits
        rcases wholeOf_eq_none_iff.1 hnone with hnil | hlong
        · -- there are digits, so they are too many
          have hnil' : values (wholePart cs).1 = [] := hnil
          rw [hnil', List.length_nil] at hlength
          exact absurd (List.isEmpty_iff_length_eq_zero.2 hlength.symm) hempty
        · have hlong' : maxDigits < (values (wholePart cs).1).length := hlong
          omega
    · split
      · exact hrest
      · trivial

/-- For `readScalar`, a word leaves what stands behind it, and anything else is a number, with or
    without its sign. -/
theorem leaves_readScalar (cs : List Char) : Leaves cs (readScalar cs) := by
  unfold readScalar
  split
  case h_7 => exact (leaves_readNumber true _).mono (List.suffix_cons _ _)
  case h_8 => exact leaves_readNumber false cs
  case h_1 rest => exact ⟨['n', 'u', 'l', 'l'], rfl⟩
  case h_2 rest => exact ⟨['t', 'r', 'u', 'e'], rfl⟩
  case h_3 rest => exact ⟨['f', 'a', 'l', 's', 'e'], rfl⟩
  case h_4 rest => exact ⟨['N', 'a', 'N'], rfl⟩
  case h_5 rest => exact ⟨['I', 'n', 'f', 'i', 'n', 'i', 't', 'y'], rfl⟩
  case h_6 rest => exact ⟨['-', 'I', 'n', 'f', 'i', 'n', 'i', 't', 'y'], rfl⟩

/-! ## Values

  The readers call each other, with less fuel each time.  `ReadsOn` is what is known of all three at
  one amount of fuel. -/

/-- What the three readers leave with the `fuel` (`Leaves`). -/
structure ReadsOn (fuel : Nat) : Prop where
  value : ∀ cs, Leaves cs (readValue fuel cs)
  items : ∀ acc cs, Leaves cs (readItems fuel acc cs)
  members : ∀ acc cs, Leaves cs (readMembers fuel acc cs)

/-- One more step of `fuel` for values, with one case for each of the brackets and quotes that may
    begin one. -/
theorem ReadsOn.value_succ {fuel : Nat} (ih : ReadsOn fuel) (cs : List Char) :
    Leaves cs (readValue (fuel + 1) cs) := by
  rw [readValue.eq_def]
  dsimp only
  split
  · rename_i body
    -- a string ends at its quote, which is behind the one that it began with
    cases hs : readString body with
    | error e => exact leaves_readString_error hs
    | ok p => exact (suffix_of_readString hs).trans (List.suffix_cons _ _)
  · rename_i rest
    have hrest : skipSpace rest <:+ '[' :: rest :=
      (skipSpace_suffix rest).trans (List.suffix_cons _ _)
    split
    · rename_i heq
      rw [heq] at hrest
      exact suffix_of_cons hrest
    · exact (ih.items _ _).mono hrest
  · rename_i rest
    have hrest : skipSpace rest <:+ '\x7b' :: rest :=
      (skipSpace_suffix rest).trans (List.suffix_cons _ _)
    split
    · rename_i heq
      rw [heq] at hrest
      exact suffix_of_cons hrest
    · exact (ih.members _ _).mono hrest
  · exact leaves_readScalar cs

/-- What follows a value `v` and a character behind it. -/
theorem ReadsOn.after_value {fuel : Nat} (ih : ReadsOn fuel) {cs rest more : List Char} {v : Json}
    {c : Char} (hv : readValue fuel cs = .ok (v, rest)) (hc : skipSpace rest = c :: more) :
    more <:+ cs := by
  have hrest : rest <:+ cs := by
    have h := ih.value cs
    rw [hv] at h
    exact h
  have hskip := skipSpace_suffix rest
  rw [hc] at hskip
  exact (suffix_of_cons hskip).trans hrest

/-- One more step of `fuel` for items: the value, and then the next item behind the comma. -/
theorem ReadsOn.items_succ {fuel : Nat} (ih : ReadsOn fuel) (acc : List Json) (cs : List Char) :
    Leaves cs (readItems (fuel + 1) acc cs) := by
  rw [readItems]
  split
  · rename_i e he
    have h := ih.value cs
    rw [he] at h
    exact h
  · rename_i v rest hv
    split
    · rename_i hc
      exact ih.after_value hv hc
    · rename_i more hc
      refine (ih.items _ _).mono ?_
      exact (skipSpace_suffix more).trans (ih.after_value hv hc)
    · trivial

/-- One more step of `fuel` for members: the key, the value, and then the next member. -/
theorem ReadsOn.members_succ {fuel : Nat} (ih : ReadsOn fuel) (acc : List (String × Json))
    (cs : List Char) : Leaves cs (readMembers (fuel + 1) acc cs) := by
  rw [readMembers.eq_def]
  dsimp only
  split
  · rename_i body
    split
    · rename_i e he
      exact leaves_readString_error he
    · rename_i key rest hkey
      split
      · rename_i after hcolon
        -- what stands behind the colon is still an end of the text, and there the value is read
        have hafter : skipSpace after <:+ '"' :: body := by
          have hskip := skipSpace_suffix rest
          rw [hcolon] at hskip
          refine (skipSpace_suffix after).trans ((suffix_of_cons hskip).trans ?_)
          exact (suffix_of_readString hkey).trans (List.suffix_cons _ _)
        split
        · rename_i e he
          have h := ih.value (skipSpace after)
          rw [he] at h
          exact Leaves.mono hafter h
        · rename_i v rest' hv
          split
          · rename_i hc
            exact (ih.after_value hv hc).trans hafter
          · rename_i more hc
            refine (ih.members _ _).mono ?_
            exact (skipSpace_suffix more).trans ((ih.after_value hv hc).trans hafter)
          · trivial
      · trivial
  · trivial

/-- What the three readers leave with any `fuel`, by the three steps. -/
theorem readsOn (fuel : Nat) : ReadsOn fuel := by
  induction fuel with
  | zero => exact ⟨fun _ => trivial, fun _ _ => trivial, fun _ _ => trivial⟩
  | succ fuel ih => exact ⟨ih.value_succ, ih.items_succ, ih.members_succ⟩

/-! ## Texts

  The converse needs one text only: the numeral itself. -/

/-- **A text that is refused for a numeral has a long run of digits**: `readsOn` for the fuel that
    `read` gives. -/
theorem hasLongRun_of_read {text : String} (h : read text = .error .longNumeral) :
    HasLongRun text.toList := by
  unfold read at h
  dsimp only at h
  split at h
  · rename_i e he
    cases h
    have hlong := (readsOn (text.toList.length + 1)).value (skipSpace text.toList)
    rw [he] at hlong
    exact HasLongRun.mono hlong (skipSpace_suffix _).isInfix
  · split at h <;> cases h

/-- **A numeral of more than `maxDigits` digits on its own is refused**, unless it starts with a
    zero. -/
theorem read_longNumeral {c : Char} {more : List Char}
    (hdigits : ∀ d ∈ c :: more, isAsciiDigit d = true) (hc : c ≠ '0')
    (hlong : maxDigits < (c :: more).length) :
    read (String.ofList (c :: more)) = .error .longNumeral := by
  have hdigit : isAsciiDigit c = true := hdigits c List.mem_cons_self
  have hword := isWordStart_of_digit hdigit
  have hspace : isSpace c = false := by
    simp only [isWordStart, Bool.and_eq_true, Bool.not_eq_true'] at hword
    exact hword.1.1.1.1
  -- the numeral is all whole part, and nothing follows
  have hwhole : wholePart (c :: more) = (c :: more, []) := by
    have h := wholePart_append hdigits (.inr ⟨c, more, rfl, hc⟩) ends_nil.noDigit
    rwa [List.append_nil] at h
  have hnone : wholeOf false ((c :: more).filterMap digitValue?) = none := by
    rw [wholeOf_eq_none_iff]
    right
    show maxDigits < (values (c :: more)).length
    rwa [length_values hdigits]
  have hnumber : readNumber false (c :: more) = .error .longNumeral := by
    rw [readNumber, hwhole]
    simp only [hnone]
    rfl
  rw [read, String.toList_ofList]
  simp only [skipSpace_cons hspace, readValue_word hword, readScalar_digit hdigit, hnumber]

end PrinterConsole.Json
