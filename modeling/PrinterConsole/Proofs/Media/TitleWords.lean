/-
  The words of a keyword that has no wording of its own.

  The keyword is gone through character by character (`titleRest`), and only whether the last
  character was a hyphen that became a space is kept.  So behind the first character, what is
  written is the words between the hyphens, each capitalised and with a space in front of it
  (`titleRest_append`, by induction on the characters).

  A hyphen at either end is none between words: the first character is not looked at, and the last
  one is told by nothing following it.  Statements about the characters in the middle therefore
  say what may follow them at the end of the keyword (`IsEnd`).

  Main statement: `titleText_words`.
-/
import PrinterConsole.Media.Label
import PrinterConsole.Proofs.Text.Split

namespace PrinterConsole.Label

open PrinterConsole.Text

/-! ## Words

  A keyword is words with hyphens between, and its title is the words with blanks between, each with
  its first letter raised. -/

/-- A word with its first character in upper case (`upperChar`, which may give more than one
    character). -/
def capitalised : List Char → List Char
  | [] => []
  | c :: rest => upperChar c ++ rest

/-- The `words`, each `capitalised`, with a space between any two. -/
def spaced (words : List (List Char)) : List Char := [' '].intercalate (words.map capitalised)

/-- The `words` behind another one, each `capitalised` and with a space in front of it. -/
def spacedBehind (words : List (List Char)) : List Char := words.flatMap (' ' :: capitalised ·)

theorem spacedBehind_cons (word : List Char) (words : List (List Char)) :
    spacedBehind (word :: words) = ' ' :: (capitalised word ++ spacedBehind words) := rfl

/-- The first of the words has no blank in front, all others have (`spacedBehind`). -/
theorem spaced_cons (word : List Char) (words : List (List Char)) :
    spaced (word :: words) = capitalised word ++ spacedBehind words := by
  induction words generalizing word with
  | nil => simp [spaced, spacedBehind]
  | cons next words ih =>
    have hnext := ih next
    simp only [spaced, List.map_cons] at hnext ⊢
    rw [List.intercalate_cons_cons, hnext, spacedBehind_cons, List.append_assoc]
    rfl

theorem splitOn_cons_of_ne {sep c : Char} {cs first : List Char} {parts : List (List Char)}
    (h : c ≠ sep) (hsplit : splitOn sep cs = first :: parts) :
    splitOn sep (c :: cs) = (c :: first) :: parts := by
  rw [splitOn, if_neg h, hsplit]

theorem upperChar_hyphen : upperChar '-' = ['-'] := by decide

/-! ## Behind the first character

  A hyphen at either end of the keyword stands between no words and is kept.  What may follow the
  characters in the middle is told by `IsEnd`. -/

/-- What may follow `cs` at the end of a keyword so that no hyphen of `cs` is the last character:
    nothing, if `cs` does not end in a hyphen, or one more hyphen. -/
inductive IsEnd (cs : List Char) : List Char → Prop where
  | nothing (h : cs.getLast? ≠ some '-') : IsEnd cs []
  | hyphen : IsEnd cs ['-']

/-- What may follow `c :: cs` may follow `cs`. -/
theorem IsEnd.of_cons {c : Char} {cs back : List Char} (h : IsEnd (c :: cs) back) :
    IsEnd cs back := by
  cases h with
  | hyphen => exact .hyphen
  | nothing h =>
    refine .nothing fun hlast => h ?_
    rw [List.getLast?_cons, hlast]
    rfl

/-- A hyphen in front of an end is followed by something, so `titleRest` makes it a space. -/
theorem IsEnd.append_ne_nil {cs back : List Char} (h : IsEnd ('-' :: cs) back) :
    cs ++ back ≠ [] := by
  cases h with
  | hyphen => exact List.append_ne_nil_of_right_ne_nil _ (List.cons_ne_nil _ _)
  | nothing h =>
    intro hnil
    rw [List.append_nil] at hnil
    subst hnil
    exact h rfl

/-- An end (`IsEnd`) stays as it is: its hyphen is the last character. -/
theorem titleRest_end (afterSpace : Bool) {cs back : List Char} (h : IsEnd cs back) :
    titleRest afterSpace back = back := by
  cases h with
  | nothing => rfl
  | hyphen => cases afterSpace <;> decide

/-- **Behind the first character, the words between the hyphens are `capitalised`**; the first of
    them is so only behind a space (`afterSpace`). -/
theorem titleRest_append {cs back first : List Char} {parts : List (List Char)}
    (hsplit : splitOn '-' cs = first :: parts) (hend : IsEnd cs back) (afterSpace : Bool) :
    titleRest afterSpace (cs ++ back) =
      (if afterSpace then capitalised first else first) ++ spacedBehind parts ++ back := by
  induction cs generalizing first parts afterSpace with
  | nil =>
    cases hsplit
    rw [List.nil_append, titleRest_end afterSpace hend]
    cases afterSpace <;> rfl
  | cons c cs ih =>
    obtain ⟨next, more, hrest, -⟩ := exists_splitOn '-' cs
    by_cases hc : c = '-'
    · -- The word in front of the hyphen is empty, and the next one is capitalised.
      subst hc
      rw [splitOn, if_pos rfl, hrest] at hsplit
      cases hsplit
      rw [List.cons_append, titleRest, if_pos ⟨rfl, hend.append_ne_nil⟩, ih hrest hend.of_cons true,
        spacedBehind_cons]
      cases afterSpace <;> rfl
    · rw [splitOn_cons_of_ne hc hrest] at hsplit
      cases hsplit
      have hnot : ¬ (c = '-' ∧ cs ++ back ≠ []) := fun h => hc h.1
      rw [List.cons_append, titleRest, if_neg hnot, ih hrest hend.of_cons false]
      cases afterSpace with
      | false => rfl
      | true => simp only [if_true, Bool.false_eq_true, if_false, capitalised, List.append_assoc]

/-! ## The whole keyword -/

/-- **The `title` of any keyword**: the first character in upper case, the rest of the first word as
    it is, the other words, and a last hyphen as it is. -/
theorem title_cons_append (c : Char) {cs back first : List Char} {parts : List (List Char)}
    (hsplit : splitOn '-' cs = first :: parts) (hend : IsEnd cs back) :
    title (c :: (cs ++ back)) = upperChar c ++ (first ++ spacedBehind parts) ++ back := by
  rw [title, titleRest_append hsplit hend false]
  simp only [Bool.false_eq_true, if_false, List.append_assoc]

/-- The `title` of a keyword that begins with no hyphen: its words, and a last hyphen as it is. -/
theorem title_append {c : Char} {cs back : List Char} (hc : c ≠ '-') (hend : IsEnd cs back) :
    title (c :: (cs ++ back)) = spaced (splitOn '-' (c :: cs)) ++ back := by
  obtain ⟨first, parts, hsplit, -⟩ := exists_splitOn '-' cs
  rw [title_cons_append c hsplit hend, splitOn_cons_of_ne hc hsplit, spaced_cons]
  simp only [capitalised, List.append_assoc]

theorem toList_titleText (keyword : String) :
    (titleText keyword).toList = title keyword.toList := String.toList_ofList

/-- What is put behind a keyword as its last hyphen is the last character of the `title`. -/
theorem getLast?_title_concat (cs : List Char) : (title (cs ++ ['-'])).getLast? = some '-' := by
  cases cs with
  | nil => decide
  | cons c cs =>
    obtain ⟨first, parts, hsplit, -⟩ := exists_splitOn '-' cs
    rw [List.cons_append, title_cons_append c hsplit .hyphen, List.getLast?_concat]

/-- **A keyword is labelled by its words.** Between hyphens that are neither first nor last, every
    word, empty ones as well, is `capitalised`, and the words stand a space apart (`spaced`); a
    hyphen at either end stays. -/
theorem titleText_words (keyword : String) :
    (keyword.toList.head? ≠ some '-' → keyword.toList.getLast? ≠ some '-' →
      titleText keyword = String.ofList (spaced (splitOn '-' keyword.toList))) ∧
    (keyword.toList.head? = some '-' → (titleText keyword).toList.head? = some '-') ∧
    (keyword.toList.getLast? = some '-' → (titleText keyword).toList.getLast? = some '-') := by
  rw [toList_titleText, titleText]
  refine ⟨fun hhead hlast => congrArg String.ofList ?_, fun hhead => ?_, fun hlast => ?_⟩
  · cases hcs : keyword.toList with
    | nil => rfl
    | cons c cs =>
      rw [hcs] at hhead hlast
      have hc : c ≠ '-' := fun h => hhead (congrArg some h)
      have htitle := title_append hc (IsEnd.nothing hlast).of_cons
      rwa [List.append_nil, List.append_nil] at htitle
  · obtain ⟨cs, hcs⟩ := List.head?_eq_some_iff.1 hhead
    rw [hcs, title, upperChar_hyphen]
    rfl
  · obtain ⟨cs, hcs⟩ := List.getLast?_eq_some_iff.1 hlast
    rw [hcs]
    exact getLast?_title_concat cs

/-- Neighbouring hyphens have an empty word between them, and an upper case may be longer. -/
example : titleText "two--sßze-ßa-" = "Two  Sßze SSa-" := by decide

end PrinterConsole.Label
