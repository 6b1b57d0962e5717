/-
  Spellings of a keyword.

  A keyword may be written in either case, with underscores for its hyphens and with blanks around
  it.  What is compared is its folded form (`Vocabulary.folded`), which is the same for all these
  spellings; so they name the same member of every vocabulary, or none.

  `Respelled` is defined by the words themselves, letter by letter (`SameLetter`), and not by
  folding.  Trimming takes two spellings apart at the same place, since a spelling never makes a
  blank of a letter (`SameLetter.isBlank_eq`).

  Main statements: blanks around a text are trimmed (`trim_append_blanks`), and folding a text
  forgets how it is spelled (`folded_eq_of_respelled`).
-/
import Mathlib.Data.List.Forall2
import Mathlib.Data.List.TakeWhile
import PrinterConsole.Keyword.Vocabulary

namespace PrinterConsole

namespace Text

/-! ## Blanks around a text -/

/-- Blanks around a text are taken away by `trim`, however many there are. -/
theorem trim_append_blanks {front cs back : List Char} (hfront : ∀ c ∈ front, isBlank c = true)
    (hback : ∀ c ∈ back, isBlank c = true) : trim (front ++ (cs ++ back)) = trim cs := by
  have hstart : trimStart (front ++ (cs ++ back)) =
      if (trimStart cs).isEmpty then [] else trimStart cs ++ back := by
    rw [trimStart, List.dropWhile_append_of_pos hfront, List.dropWhile_append,
      List.dropWhile_eq_nil_iff.2 hback]
    rfl
  rw [trim, hstart, trim]
  split
  · rename_i hempty
    rw [List.isEmpty_iff.1 hempty]
  · rw [trimEnd, List.reverse_append,
      List.dropWhile_append_of_pos fun c hc => hback c (List.mem_reverse.1 hc), trimEnd]

end Text

open PrinterConsole.Text

/-! ## Letters -/

inductive SameLetter : Char → Char → Prop where
  | same (c : Char) : SameLetter c c
  | case {c d : Char} (hc : c.isAlpha = true) (hd : d.isAlpha = true) (h : c.toUpper = d.toUpper) :
      SameLetter c d
  | underscore : SameLetter '-' '_'
  | hyphen : SameLetter '_' '-'

/-- A letter of ASCII lies between `A` and `z`. -/
theorem toNat_bounds_of_isAlpha {c : Char} (h : c.isAlpha = true) : 65 ≤ c.toNat ∧ c.toNat ≤ 122 := by
  rcases Bool.or_eq_true_iff.1 h with hupper | hlower
  · have hbounds : 65 ≤ c.toNat ∧ c.toNat ≤ 90 := of_decide_eq_true hupper
    omega
  · obtain ⟨hlow, hhigh⟩ := Bool.and_eq_true_iff.1 hlower
    have hbounds : 97 ≤ c.toNat ∧ c.toNat ≤ 122 :=
      ⟨of_decide_eq_true hlow, of_decide_eq_true hhigh⟩
    omega

theorem isBlank_of_isAlpha {c : Char} (h : c.isAlpha = true) : isBlank c = false := by
  obtain ⟨hlow, hhigh⟩ := toNat_bounds_of_isAlpha h
  simp only [isBlank, Bool.or_eq_false_iff, Bool.and_eq_false_iff, decide_eq_false_iff_not,
    beq_eq_false_iff_ne]
  omega

theorem SameLetter.isBlank_eq {c d : Char} (h : SameLetter c d) : isBlank c = isBlank d := by
  cases h with
  | same => rfl
  | case hc hd => rw [isBlank_of_isAlpha hc, isBlank_of_isAlpha hd]
  | underscore => decide
  | hyphen => decide

/-- The upper case of a letter (`upperChar`), with underscores for hyphens, is the same for both
    spellings. -/
theorem SameLetter.folded_eq {c d : Char} (h : SameLetter c d) :
    (upperChar c).map Vocabulary.underscored = (upperChar d).map Vocabulary.underscored := by
  cases h with
  | same => rfl
  | case hc hd h =>
    have hc' := toNat_bounds_of_isAlpha hc
    have hd' := toNat_bounds_of_isAlpha hd
    rw [upperChar_ascii (by omega), upperChar_ascii (by omega), h]
  | underscore => decide
  | hyphen => decide

/-! ## Spellings -/

/-- The texts `s` and `t` are spellings of one word: they differ in the case of ASCII letters, in
    hyphens and underscores, and in the blanks around them. -/
def Respelled (s t : String) : Prop :=
  ∃ front word back front' word' back',
    s.toList = front ++ (word ++ back) ∧ t.toList = front' ++ (word' ++ back') ∧
      (∀ c ∈ front ++ back ++ front' ++ back', isBlank c = true) ∧
      List.Forall₂ SameLetter word word'

/-- Two texts that differ in the case of letters only have the same blanks in front. -/
theorem forall₂_dropWhile {cs ds : List Char} (h : List.Forall₂ SameLetter cs ds) :
    List.Forall₂ SameLetter (cs.dropWhile isBlank) (ds.dropWhile isBlank) := by
  induction h with
  | nil => exact .nil
  | cons hhead htail ih =>
    rw [List.dropWhile_cons, List.dropWhile_cons, hhead.isBlank_eq]
    split
    · exact ih
    · exact .cons hhead htail

/-- Trimming two spellings by `trim` leaves two spellings. -/
theorem forall₂_trim {cs ds : List Char} (h : List.Forall₂ SameLetter cs ds) :
    List.Forall₂ SameLetter (trim cs) (trim ds) :=
  List.forall₂_reverse_iff.2 (forall₂_dropWhile (List.forall₂_reverse_iff.2 (forall₂_dropWhile h)))

/-- In upper case with underscores, two spellings are one word (`SameLetter.folded_eq`). -/
theorem map_underscored_eq {cs ds : List Char} (h : List.Forall₂ SameLetter cs ds) :
    (cs.flatMap upperChar).map Vocabulary.underscored =
      (ds.flatMap upperChar).map Vocabulary.underscored := by
  induction h with
  | nil => rfl
  | cons hhead _ ih =>
    rw [List.flatMap_cons, List.flatMap_cons, List.map_append, List.map_append, hhead.folded_eq, ih]

namespace Vocabulary

theorem toList_folded (s : String) :
    (folded s).toList = ((trim s.toList).flatMap upperChar).map underscored := by
  rw [folded, upper, trimmed, String.toList_ofList, String.toList_ofList, String.toList_ofList]

/-- **Folding a text by `folded` forgets how it is spelled**: the blanks around it are trimmed, and
    its letters fold alike. -/
theorem folded_eq_of_respelled {s t : String} (h : Respelled s t) : folded s = folded t := by
  obtain ⟨front, word, back, front', word', back', hs, ht, hblank, hword⟩ := h
  simp only [List.forall_mem_append] at hblank
  obtain ⟨⟨⟨hfront, hback⟩, hfront'⟩, hback'⟩ := hblank
  apply String.toList_inj.1
  rw [toList_folded, toList_folded, hs, ht, trim_append_blanks hfront hback,
    trim_append_blanks hfront' hback']
  exact map_underscored_eq (forall₂_trim hword)

variable {α : Type} [Vocabulary α]

/-- Spellings of one word name the same member (`ofKeyword?`). -/
theorem ofKeyword?_eq_of_respelled {s t : String} (h : Respelled s t) :
    (ofKeyword? s : Option α) = ofKeyword? t := by
  rw [ofKeyword?, ofKeyword?, folded_eq_of_respelled h]

end Vocabulary

end PrinterConsole
