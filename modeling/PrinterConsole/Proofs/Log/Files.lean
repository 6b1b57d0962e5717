/-
  The files of the log.

  A file is `LogFile.add` run over messages, and what it shows depends on when it was put aside.
  The question of each message is whether the lines before it leave room for its own (`HasRoom`).
  As long as they do, the file is the text of all messages.  The first time that they do not, the
  file that is put aside has something in it; and as a file that has taken a message is never empty
  again, so has every file put aside later.  From then on something is always missing from the file
  itself, though it is still to be found aside (`holds_ofMessages_iff`).

  Of the files aside, `LogFile.putAside` drops the oldest once there are more than `keptFiles`.  So
  what all files together hold is the end of the text, and all of it up to that moment
  (`exists_lost_append_whole`).

  Main statements: `holds_ofMessages_iff`, `exists_lost_append_whole`.
-/
import Mathlib.Data.List.Induction
import Mathlib.Data.List.Flatten
import PrinterConsole.Log

namespace PrinterConsole.Log

/-! ## Texts

  The text of messages is that of their lines, and no line is empty. -/

/-- `textOf` as one list of characters, which is how texts are compared here. -/
theorem toList_textOf (ms : List Message) :
    (textOf ms).toList = ms.flatMap fun m => m.line.toList := by
  rw [textOf, String.toList_join, List.flatMap_map]

theorem textOf_cons (m : Message) (ms : List Message) : textOf (m :: ms) = m.line ++ textOf ms := by
  rw [textOf, List.map_cons, String.join_cons, textOf]

theorem textOf_append (front back : List Message) :
    textOf (front ++ back) = textOf front ++ textOf back := by
  rw [← String.toList_inj, String.toList_append, toList_textOf, toList_textOf, toList_textOf,
    List.flatMap_append]

/-- One more message adds its `line` at the end. -/
theorem textOf_concat (ms : List Message) (m : Message) :
    textOf (ms ++ [m]) = textOf ms ++ m.line := by
  have hnone : textOf [] = "" := rfl
  rw [textOf_append, textOf_cons, hnone, String.append_empty]

theorem line_ne_empty (m : Message) : m.line ≠ "" := by
  intro h
  rw [Message.line, String.append_eq_empty_iff] at h
  exact absurd h.2 (by decide)

/-- Fewer messages (`List.Sublist`) take no more bytes. -/
theorem utf8ByteSize_textOf_le {few all : List Message} (h : few.Sublist all) :
    (textOf few).utf8ByteSize ≤ (textOf all).utf8ByteSize := by
  induction h with
  | slnil => exact Nat.le_refl _
  | cons m _ ih =>
    rw [textOf_cons, String.utf8ByteSize_append]
    omega
  | cons_cons m _ ih =>
    rw [textOf_cons, textOf_cons, String.utf8ByteSize_append, String.utf8ByteSize_append]
    omega

/-! ## Room

  `HasRoom` is about messages alone and knows nothing of files.  The first message is let off, since
  a file that is empty takes any line. -/

/-- Every message but the first finds room behind the lines before it: their bytes and the
    characters of its own line stay below `fileLimit`. -/
def HasRoom (ms : List Message) : Prop :=
  ∀ before m back, ms = before ++ m :: back → before ≠ [] →
    (textOf before).utf8ByteSize + m.line.length < fileLimit

theorem hasRoom_nil : HasRoom [] := by
  intro before m back h
  simp at h

/-- Room for one more message: for those before it, and behind them.  This is the form in which
    `HasRoom` meets `LogFile.add`. -/
theorem hasRoom_concat {ms : List Message} {m : Message} :
    HasRoom (ms ++ [m]) ↔
      HasRoom ms ∧ (ms ≠ [] → (textOf ms).utf8ByteSize + m.line.length < fileLimit) := by
  constructor
  · intro h
    refine ⟨fun before x back hms => h before x (back ++ [m]) ?_, h ms m [] rfl⟩
    rw [hms, List.append_assoc, List.cons_append]
  · rintro ⟨hall, hlast⟩ before x back hms
    rcases List.eq_nil_or_concat back with rfl | ⟨back, last, rfl⟩
    · obtain ⟨rfl, hx⟩ := List.append_inj' hms rfl
      cases hx
      exact hlast
    · rw [List.concat_eq_append, ← List.cons_append, ← List.append_assoc] at hms
      obtain ⟨rfl, -⟩ := List.append_inj' hms rfl
      exact hall before x back rfl

/-- Where there is room for messages (`HasRoom`) there is room for some of them. -/
theorem HasRoom.sublist {few all : List Message} (h : few.Sublist all) (hall : HasRoom all) :
    HasRoom few := by
  rintro before m back rfl hbefore
  obtain ⟨front, rest, rfl, hfront, hrest⟩ := List.append_sublist_iff.1 h
  obtain ⟨between, behind, rfl, hm, -⟩ := List.cons_sublist_iff.1 hrest
  obtain ⟨left, right, rfl⟩ := List.append_of_mem hm
  have hsub : before.Sublist (front ++ left) := hfront.trans (List.sublist_append_left front left)
  have hroom := hall (front ++ left) m (right ++ behind) (by simp) ?_
  · have hle := utf8ByteSize_textOf_le hsub
    omega
  · intro hnil
    rw [hnil, List.sublist_nil] at hsub
    exact hbefore hsub

/-- No character of a `text` takes less than a byte. -/
theorem length_le_utf8ByteSize (text : String) : text.length ≤ text.utf8ByteSize := by
  suffices h : ∀ cs : List Char, cs.length ≤ (String.ofList cs).utf8ByteSize by
    have htext := h text.toList
    rwa [String.ofList_toList, String.length_toList] at htext
  intro cs
  induction cs with
  | nil => exact Nat.zero_le _
  | cons c cs ih =>
    have hcons : String.ofList (c :: cs) = String.singleton c ++ String.ofList cs := by
      rw [← String.toList_inj]
      simp
    have hpos := c.utf8Size_pos
    rw [hcons, String.utf8ByteSize_append, String.utf8ByteSize_singleton, List.length_cons]
    omega

/-- There is room for less than `fileLimit` bytes, in whatever lines they come. -/
theorem hasRoom_of_utf8ByteSize_lt {ms : List Message}
    (h : (textOf ms).utf8ByteSize < fileLimit) : HasRoom ms := by
  rintro before m back rfl -
  have hline := length_le_utf8ByteSize m.line
  rw [textOf_append, textOf_cons, String.utf8ByteSize_append, String.utf8ByteSize_append] at h
  omega

namespace LogFile

variable {f : LogFile} {m : Message} {ms : List Message}

/-! ## One message

  A message is added behind what is there, or to a file begun anew. -/

theorem ofMessages_concat (ms : List Message) (m : Message) :
    ofMessages (ms ++ [m]) = (ofMessages ms).add m := List.foldl_append

/-- A message for which the file is full (`isFullFor`) begins it anew. -/
theorem add_of_full (h : f.isFullFor m = true) :
    f.add m = ⟨m.line, (f.text :: f.aside).take keptFiles⟩ := by
  rw [add, h, if_pos rfl, putAside, String.empty_append]

theorem add_of_room (h : f.isFullFor m = false) : f.add m = ⟨f.text ++ m.line, f.aside⟩ := by
  rw [add, h]
  rfl

/-- A file that has taken a message (`add`) is not empty, whether or not it was put aside before. -/
theorem text_add_ne_empty (f : LogFile) (m : Message) : (f.add m).text ≠ "" := by
  cases h : f.isFullFor m with
  | true =>
    rw [add_of_full h]
    exact line_ne_empty m
  | false =>
    rw [add_of_room h]
    exact fun hnil => line_ne_empty m (String.append_eq_empty_iff.1 hnil).2

/-- The file of some messages has something in it, by `text_add_ne_empty` for the last. -/
theorem text_ofMessages_ne_empty (h : ms ≠ []) : (ofMessages ms).text ≠ "" := by
  obtain ⟨before, m, rfl⟩ := (List.eq_nil_or_concat ms).resolve_left h
  rw [List.concat_eq_append, ofMessages_concat]
  exact text_add_ne_empty _ m

/-! ## What the file itself shows

  As long as there is room, one file is enough.  Once there was none, something is aside, and from
  then on there always is, as what is put aside is not empty. -/

/-- The `text` is in the file `f`, and none of the files aside has anything in it. -/
structure Holds (f : LogFile) (text : String) : Prop where
  text_eq : f.text = text
  aside_eq : ∀ t ∈ f.aside, t = ""

/-- The step of `holds_of_hasRoom`: a file that is put aside empty takes nothing with it. -/
theorem Holds.add {text : String} (h : f.Holds text)
    (hroom : f.text ≠ "" → f.isFullFor m = false) : (f.add m).Holds (text ++ m.line) := by
  cases hfull : f.isFullFor m with
  | true =>
    have hempty : f.text = "" := by
      by_contra hne
      rw [hroom hne] at hfull
      cases hfull
    rw [add_of_full hfull]
    constructor
    · rw [← h.text_eq, hempty, String.empty_append]
    · intro t ht
      rcases List.mem_cons.1 (List.mem_of_mem_take ht) with rfl | ht
      · exact hempty
      · exact h.aside_eq t ht
  | false =>
    rw [add_of_room hfull]
    exact ⟨congrArg (· ++ m.line) h.text_eq, h.aside_eq⟩

/-- There is room for a message as long as the bytes of the file and the characters of the line stay
    below `fileLimit`. -/
theorem isFullFor_eq_false_iff :
    f.isFullFor m = false ↔ f.text.utf8ByteSize + m.line.length < fileLimit := by
  rw [isFullFor, decide_eq_false_iff_not, Nat.not_le]

/-- **With room for all messages the file is their text.** By induction from the end, with
    `Holds.add` for the step; only the first message may find the file full, while it is empty. -/
theorem holds_of_hasRoom (h : HasRoom ms) : (ofMessages ms).Holds (textOf ms) := by
  induction ms using List.reverseRecOn with
  | nil => exact ⟨rfl, List.forall_mem_nil _⟩
  | append_singleton ms m ih =>
    obtain ⟨hall, hlast⟩ := hasRoom_concat.1 h
    rw [ofMessages_concat, textOf_concat]
    refine (ih hall).add fun hne => isFullFor_eq_false_iff.2 ?_
    rw [(ih hall).text_eq]
    exact hlast fun hnil => hne (by rw [hnil]; rfl)

/-- **Without room something was put aside.**  `putAside` drops files from the other end, and the
    file that it puts in front is not empty. -/
theorem exists_aside_of_not_hasRoom (h : ¬ HasRoom ms) : ∃ t ∈ (ofMessages ms).aside, t ≠ "" := by
  induction ms using List.reverseRecOn with
  | nil => exact absurd hasRoom_nil h
  | append_singleton ms m ih =>
    have hms : ms ≠ [] := by
      rintro rfl
      exact h (hasRoom_concat.2 ⟨hasRoom_nil, absurd rfl⟩)
    rw [ofMessages_concat]
    cases hfull : (ofMessages ms).isFullFor m with
    | true =>
      rw [add_of_full hfull]
      exact ⟨_, List.mem_cons_self, text_ofMessages_ne_empty hms⟩
    | false =>
      rw [add_of_room hfull]
      -- the room was missing before, as the file has some for this message
      refine ih fun hall => h (hasRoom_concat.2 ⟨hall, fun _ => ?_⟩)
      rw [← (holds_of_hasRoom hall).text_eq]
      exact isFullFor_eq_false_iff.1 hfull

/-- **The file holds a text exactly if** the messages have room and it is theirs:
    `holds_of_hasRoom`, and without room `exists_aside_of_not_hasRoom` puts something aside. -/
theorem holds_ofMessages_iff {text : String} :
    (ofMessages ms).Holds text ↔ HasRoom ms ∧ text = textOf ms := by
  constructor
  · intro h
    have hroom : HasRoom ms := by
      by_contra hnone
      obtain ⟨t, ht, hne⟩ := exists_aside_of_not_hasRoom hnone
      exact hne (h.aside_eq t ht)
    exact ⟨hroom, h.text_eq.symm.trans (holds_of_hasRoom hroom).text_eq⟩
  · rintro ⟨hroom, rfl⟩
    exact holds_of_hasRoom hroom

/-! ## What all files show

  Files aside and file together, the oldest first, are the end of what was written; what is before
  it was dropped with the oldest file. -/

/-- What `add` drops from the files as a whole: nothing, unless all of the `keptFiles` are there. -/
theorem exists_dropped_append_whole (f : LogFile) (m : Message) :
    ∃ dropped, dropped ++ (f.add m).whole = f.whole ++ m.line ∧
      (f.aside.length < keptFiles → dropped = "") := by
  cases hfull : f.isFullFor m with
  | false =>
    rw [add_of_room hfull]
    exact ⟨"", by simp [whole, String.append_assoc], fun _ => rfl⟩
  | true =>
    rw [add_of_full hfull]
    have hsplit := List.take_append_drop keptFiles (f.text :: f.aside)
    refine ⟨String.join ((f.text :: f.aside).drop keptFiles).reverse, ?_, fun hlt => ?_⟩
    · have hjoin : f.whole = String.join (f.text :: f.aside).reverse := by
        rw [whole, List.reverse_cons, ← String.toList_inj]
        simp [String.toList_join]
      rw [hjoin, ← hsplit, List.reverse_append, hsplit, whole, ← String.toList_inj]
      simp [String.toList_join]
    · rw [List.drop_eq_nil_of_le hlt, List.reverse_nil, String.join_nil]

/-- As long as there are fewer than `keptFiles` aside, there were no more before. -/
theorem length_aside_lt_of_add (h : (f.add m).aside.length < keptFiles) :
    f.aside.length < keptFiles := by
  cases hfull : f.isFullFor m with
  | false => rwa [add_of_room hfull] at h
  | true =>
    rw [add_of_full hfull, List.length_take, List.length_cons] at h
    omega

/-- **All files together show the end of the text**, and all of it as long as there are fewer than
    `keptFiles` aside.  By induction from the end: what is lost grows by what
    `exists_dropped_append_whole` drops. -/
theorem exists_lost_append_whole (ms : List Message) :
    ∃ lost, lost ++ (ofMessages ms).whole = textOf ms ∧
      ((ofMessages ms).aside.length < keptFiles → lost = "") := by
  induction ms using List.reverseRecOn with
  | nil => exact ⟨"", rfl, fun _ => rfl⟩
  | append_singleton ms m ih =>
    obtain ⟨lost, hwhole, hlost⟩ := ih
    obtain ⟨dropped, hadd, hdropped⟩ := exists_dropped_append_whole (ofMessages ms) m
    rw [ofMessages_concat, textOf_concat]
    refine ⟨lost ++ dropped, ?_, fun hlt => ?_⟩
    · rw [String.append_assoc, hadd, ← String.append_assoc, hwhole]
    · have hbefore := length_aside_lt_of_add hlt
      rw [hlost hbefore, hdropped hbefore, String.empty_append]

end LogFile

end PrinterConsole.Log
