/-
  Which texts cleaning leaves as they are.

  Cleaning trims a text, drops what looks like markup, makes invisible characters visible and
  reads the references once.  No step lengthens a text, so a text can only come back if every step
  keeps its length; and then each step keeps the text but for single characters, which do not come
  back.

  `Shrinks` is what is proved of writing and reading one piece: what is read is no longer than
  what was written of, and the same exactly under a condition `good`.  It is put together along
  the text (`Shrinks.append`), from single characters over parts between ampersands
  (`shrinks_part`) to whole segments (`shrinks_middle`), so the condition for a text is the
  conjunction of those for its parts.

  Main statements: a text comes back from cleaning exactly if it is clean (`clean_eq_self_iff`),
  as a trimmed text of plain characters is (`isClean_of_plain`), and a text that is not too long
  can be cleaned (`exists_clean`).
-/
import PrinterConsole.Proofs.Markup.Reference
import PrinterConsole.Proofs.Markup.Scan
import PrinterConsole.Proofs.Text.Split

namespace PrinterConsole.Markup

open PrinterConsole.Number PrinterConsole.Text

/-! ## Reading what was written

  Text that was escaped is read back as it was.  A reference is written as it stands, though, and
  read as what it stands for; `Shrinks` says that what comes out is no longer than what went in, and
  when it is the same. -/

/-- An escaped character is read as itself (`Reads`). -/
theorem reads_escapeChar (c : Char) : Reads (escapeChar c) [c] := by
  have hname : ∀ {name : List Char} {value : Char}, named? name = some [value] →
      (name.take 32).takeWhile isNameChar = name → (∃ d ds, name = d :: ds ∧ isNameChar d = true) →
        Reads ('&' :: (name ++ [';'])) [value] := by
    rintro name value hvalue htake ⟨d, ds, rfl, hd⟩
    refine Reads.of_reference fun rest => ?_
    rw [List.append_assoc, List.singleton_append, List.cons_append, reference_name hd,
      ← List.cons_append, nameReference_closed htake, closedValue, hvalue]
  unfold escapeChar
  split
  · rename_i hc
    rw [hc]
    exact hname named_amp (by decide) ⟨_, _, rfl, by decide⟩
  · split
    · rename_i hc
      rw [hc]
      exact hname named_lt (by decide) ⟨_, _, rfl, by decide⟩
    · split
      · rename_i hc
        rw [hc]
        exact hname named_gt (by decide) ⟨_, _, rfl, by decide⟩
      · rename_i hc _ _
        exact Reads.char hc

theorem reads_escapeText (cs : List Char) : Reads (escapeText cs) cs := by
  induction cs with
  | nil => exact Reads.nil
  | cons c cs ih => exact (reads_escapeChar c).append ih

/-- What was `written` of a `text` is read as a text that is no longer; as a text of the same length
    only with the same characters, ampersands and semicolons apart; and as the text itself exactly
    if it is as it should be (`good`). -/
def Shrinks (text written : List Char) (good : Prop) : Prop :=
  ∃ v, Reads written v ∧ v.length ≤ text.length ∧
    (v.length = text.length → ∀ c ∈ v, c = '&' ∨ c = ';' ∨ c ∈ text) ∧ (v = text ↔ good)

namespace Shrinks

theorem of_reads {text written : List Char} (h : Reads written text) :
    Shrinks text written True :=
  ⟨text, h, Nat.le_refl _, fun _ _ hc => .inr (.inr hc), iff_true_intro rfl⟩

/-- Two texts in a row shrink (`Shrinks`) as each of them does. -/
theorem append {text text' written written' : List Char} {good good' : Prop}
    (h : Shrinks text written good) (h' : Shrinks text' written' good') :
    Shrinks (text ++ text') (written ++ written') (good ∧ good') := by
  obtain ⟨v, hv, hle, hchars, hgood⟩ := h
  obtain ⟨v', hv', hle', hchars', hgood'⟩ := h'
  refine ⟨v ++ v', hv.append hv', ?_, fun hlength c hc => ?_, ?_⟩
  · rw [List.length_append, List.length_append]
    omega
  · rw [List.length_append, List.length_append] at hlength
    rw [List.mem_append]
    rcases List.mem_append.1 hc with hc | hc
    · rcases hchars (by omega) c hc with h | h | h
      · exact .inl h
      · exact .inr (.inl h)
      · exact .inr (.inr (.inl h))
    · rcases hchars' (by omega) c hc with h | h | h
      · exact .inl h
      · exact .inr (.inl h)
      · exact .inr (.inr (.inr h))
  · rw [← hgood, ← hgood']
    constructor
    · intro heq
      have hlength := congrArg List.length heq
      rw [List.length_append, List.length_append] at hlength
      exact List.append_inj heq (by omega)
    · rintro ⟨rfl, rfl⟩
      rfl

theorem congr {text written : List Char} {good good' : Prop} (h : Shrinks text written good)
    (hgood : good ↔ good') : Shrinks text written good' := by
  obtain ⟨v, hv, hle, hchars, hself⟩ := h
  exact ⟨v, hv, hle, hchars, hself.trans hgood⟩

end Shrinks

/-! ## Writing a text

  A text is written segment by segment, and a segment part by part, each from one ampersand to the
  next.  A part stands for itself if no reference begins it, or one that is read as it is written
  (`Literal`). -/

/-- What looks like a reference at the start of the `part` is there with its semicolon, and stands
    for itself. -/
def Literal (part : List Char) : Prop :=
  ∀ entity, referenceAt part = some entity →
    resolve ('&' :: (entity ++ [';'])) = .ok ('&' :: (entity ++ [';'])) ∧ entity ++ [';'] <+: part

theorem writePart_of_reference {part entity : List Char} (h : referenceAt part = some entity) :
    writePart part =
      '&' :: (entity ++ [';']) ++ escapeText (part.drop (entity.length + 1)) := by
  rw [writePart, h]
  simp

/-- What a reference stands for with the rest of its part is the part itself exactly if the
    reference is `Literal`. -/
theorem part_eq_iff {part entity v : List Char} (h : referenceAt part = some entity)
    (hv : Reads ('&' :: (entity ++ [';'])) v)
    (hself : v = '&' :: (entity ++ [';']) ∨ v.length < entity.length + 2) :
    v ++ part.drop (entity.length + 1) = '&' :: part ↔ Literal part := by
  obtain ⟨-, -, hlt⟩ := referenceAt_spec h
  constructor
  · intro heq entity' h'
    cases h.symm.trans h'
    have hlengths := congrArg List.length heq
    rw [List.length_append, List.length_drop, List.length_cons] at hlengths
    obtain rfl : v = '&' :: (entity ++ [';']) := hself.resolve_right (by omega)
    exact ⟨hv.resolve_eq, _, (List.cons.inj heq).2⟩
  · intro hliteral
    obtain ⟨hresolve, rest, hrest⟩ := hliteral entity h
    cases hv.resolve_eq.symm.trans hresolve
    have hdrop : part.drop (entity.length + 1) = rest := by
      rw [← hrest]
      exact List.drop_left' (by rw [List.length_append, List.length_singleton])
    rw [hdrop, List.cons_append, hrest]

/-- A part behind an ampersand shrinks, and comes back exactly if it is `Literal`: a reference in it
    either stands for itself or for something shorter. -/
theorem shrinks_part {part : List Char} (hlength : part.length ≤ maxDigits) :
    Shrinks ('&' :: part) (writePart part) (Literal part) := by
  cases href : referenceAt part with
  | none =>
    have hwritten : writePart part = escapeText ('&' :: part) := by rw [writePart, href]
    rw [hwritten]
    refine (Shrinks.of_reads (reads_escapeText _)).congr (iff_of_true trivial fun entity h => ?_)
    rw [href] at h
    cases h
  | some entity =>
    obtain ⟨hentity, hfront, hlt⟩ := referenceAt_spec href
    obtain ⟨v, hv, hself⟩ := hentity.reads (by omega)
    -- the entity, its semicolon and what follows make up the part
    have hback : (part.drop (entity.length + 1)).length + (entity.length + 1) = part.length := by
      rw [List.length_drop]
      omega
    rw [writePart_of_reference href]
    refine ⟨_, hv.append (reads_escapeText _), ?_, fun heq c hc => ?_, part_eq_iff href hv hself⟩
    · rcases hself with rfl | hshort
      · simp only [List.length_append, List.length_cons, List.length_nil]
        omega
      · rw [List.length_append, List.length_cons]
        omega
    · rcases hself with rfl | hshort
      · simp only [List.mem_append, List.mem_cons, List.not_mem_nil, or_false] at hc
        rcases hc with (h | h | h) | h
        · exact .inl h
        · exact .inr (.inr (List.mem_cons_of_mem _ (hfront.subset h)))
        · exact .inr (.inl h)
        · exact .inr (.inr (List.mem_cons_of_mem _ (List.mem_of_mem_drop h)))
      · rw [List.length_append, List.length_cons] at heq
        omega

/-- Part after part by `Shrinks.append`, from `shrinks_part`. -/
theorem shrinks_parts {parts : List (List Char)} (h : ∀ part ∈ parts, part.length ≤ maxDigits) :
    Shrinks (parts.flatMap ('&' :: ·)) (parts.flatMap writePart) (∀ part ∈ parts, Literal part) := by
  induction parts with
  | nil => exact (Shrinks.of_reads Reads.nil).congr (iff_of_true trivial (List.forall_mem_nil _))
  | cons part parts ih =>
    rw [List.forall_mem_cons] at h
    rw [List.flatMap_cons, List.flatMap_cons, List.forall_mem_cons]
    exact (shrinks_part h.1).append (ih h.2)

/-- The character `c` as it is written. -/
def shown (c : Char) : Char := if isInvisible c then '?' else c

theorem isInvisible_shown (c : Char) : isInvisible (shown c) = false := by
  unfold shown
  split
  · decide
  · rename_i hc
    exact Bool.eq_false_iff.2 hc

theorem shown_ne_return {c : Char} (hc : c ≠ '\r') : shown c ≠ '\r' := by
  unfold shown
  split
  · decide
  · exact hc

theorem map_shown_eq_self {cs : List Char} (h : ∀ c ∈ cs, isInvisible c = false) :
    cs.map shown = cs := by
  have hshown : ∀ c ∈ cs, shown c = c := by
    intro c hc
    rw [shown, h c hc]
    rfl
  rw [List.map_congr_left hshown, List.map_id']

/-- **What `writeMiddle` writes of a text is read as one that is no longer**, and as the text if
    what looks like a reference in it stands for itself (`Literal`). -/
theorem shrinks_middle {cs : List Char} (hlength : cs.length ≤ maxDigits) :
    Shrinks (cs.map shown) (writeMiddle cs)
      (∀ part ∈ (splitOn '&' (cs.map shown)).tail, Literal part) := by
  obtain ⟨first, parts, hsplit, hjoin, -, -⟩ := exists_splitOn '&' (cs.map shown)
  have hwritten : writeMiddle cs = escapeText first ++ parts.flatMap writePart := by
    change splitOn '&' (cs.map fun c => if isInvisible c then '?' else c) = first :: parts at hsplit
    rw [writeMiddle, hsplit]
  have hparts : ∀ part ∈ parts, part.length ≤ maxDigits := by
    intro part hpart
    have hjoined : (('&' :: part).length : Nat) ≤ (parts.flatMap ('&' :: ·)).length :=
      (List.sublist_flatten_of_mem (List.mem_map_of_mem hpart)).length_le
    have htotal := congrArg List.length hjoin
    rw [List.length_append, List.length_map] at htotal
    rw [List.length_cons] at hjoined
    omega
  rw [hwritten, hsplit, List.tail_cons, ← hjoin]
  exact ((Shrinks.of_reads (reads_escapeText first)).append (shrinks_parts hparts)).congr
    ⟨And.right, And.intro trivial⟩

/-- The white space around a text stays when `writeSegment` writes it. -/
theorem writeSegment_spec (cs : List Char) :
    ∃ left middle right, left ++ middle ++ right = cs ∧
      writeSegment cs = left ++ writeMiddle middle ++ right ∧
      (∀ c ∈ left, isSpace c = true) ∧ ∀ c ∈ right, isSpace c = true := by
  refine ⟨cs.takeWhile isSpace, ((cs.dropWhile isSpace).reverse.dropWhile isSpace).reverse,
    ((cs.dropWhile isSpace).reverse.takeWhile isSpace).reverse, ?_, rfl, ?_, ?_⟩
  · rw [List.append_assoc, ← List.reverse_append, List.takeWhile_append_dropWhile,
      List.reverse_reverse, List.takeWhile_append_dropWhile]
  · exact fun c hc => List.mem_takeWhile_imp hc
  · exact fun c hc => List.mem_takeWhile_imp (List.mem_reverse.1 hc)

theorem isBlank_of_isSpace {c : Char} (h : isSpace c = true) : isBlank c = true := by
  simp only [isSpace, Bool.or_eq_true, beq_iff_eq] at h
  rcases h with (((rfl | rfl) | rfl) | rfl) | rfl <;> decide

theorem ampersand_notMem_of_isSpace {cs : List Char} (h : ∀ c ∈ cs, isSpace c = true) :
    '&' ∉ cs := fun hmem => absurd (h _ hmem) (by decide)

/-- A segment of no more than `maxDigits` characters can be read when it is written, and gives no
    more characters. -/
theorem exists_reads_writeSegment {cs : List Char} (hlength : cs.length ≤ maxDigits) :
    ∃ v, Reads (writeSegment cs) v ∧ v.length ≤ cs.length := by
  obtain ⟨left, middle, right, rfl, hwritten, hleft, hright⟩ := writeSegment_spec cs
  simp only [List.length_append] at hlength
  have hmiddle : middle.length ≤ maxDigits := by omega
  obtain ⟨v, hv, hle, -, -⟩ := shrinks_middle hmiddle
  rw [List.length_map] at hle
  refine ⟨left ++ v ++ right, ?_, ?_⟩
  · rw [hwritten]
    exact ((Reads.plain (ampersand_notMem_of_isSpace hleft)).append hv).append
      (Reads.plain (ampersand_notMem_of_isSpace hright))
  · simp only [List.length_append]
    omega

/-! ## Segments

  The scanner gives segments between the tags that it drops, and these are written one by one and
  joined. -/

/-- The `segments` in a row are the characters that were kept. -/
theorem flatten_segments (ks : List Kept) : (segments ks).flatten = keptChars ks := by
  induction ks with
  | nil => rfl
  | cons k ks ih =>
    cases k with
    | seam => exact ih
    | char c =>
      show (segments (.char c :: ks)).flatten = c :: keptChars ks
      rw [segments, ← ih]
      split <;> rename_i heq <;> rw [heq] <;> rfl

theorem segments_map_char (cs : List Char) : segments (cs.map .char) = [cs] := by
  induction cs with
  | nil => rfl
  | cons c cs ih => rw [List.map_cons, segments, ih]

/-- A text without markup is written as one segment by `writeSegment`. -/
theorem withoutTags_of_scan {cs kept : List Char} (h : scan cs = kept.map .char) :
    withoutTags cs = writeSegment kept := by
  rw [withoutTags, h, segments_map_char, List.flatMap_cons, List.flatMap_nil, List.append_nil]

/-- What is written for segments reads, and as no more characters than they have. -/
theorem exists_reads_segments {parts : List (List Char)}
    (h : ∀ part ∈ parts, part.length ≤ maxDigits) :
    ∃ v, Reads (parts.flatMap writeSegment) v ∧ v.length ≤ parts.flatten.length := by
  induction parts with
  | nil => exact ⟨[], Reads.nil, Nat.le_refl _⟩
  | cons part parts ih =>
    rw [List.forall_mem_cons] at h
    obtain ⟨v, hv, hle⟩ := exists_reads_writeSegment h.1
    obtain ⟨w, hw, hle'⟩ := ih h.2
    refine ⟨v ++ w, hv.append hw, ?_⟩
    rw [List.flatten_cons, List.length_append, List.length_append]
    omega

/-- **What `withoutTags` writes can be read**, and gives no more characters than were kept. -/
theorem exists_reads_withoutTags {cs : List Char} (hlength : cs.length ≤ maxDigits) :
    ∃ v, Reads (withoutTags cs) v ∧ v.length ≤ (keptChars (scan cs)).length := by
  rw [← flatten_segments]
  refine exists_reads_segments fun part hpart => ?_
  have hpart' := (List.sublist_flatten_of_mem hpart).length_le
  have hkept := length_kept_scan_le cs
  rw [flatten_segments] at hpart'
  omega

/-! ## Cleaning

  `clean` trims, drops tags, reads references and cuts.  A text that comes out as it was is no
  shorter, so nothing was dropped or read in it: that is `IsClean`, and the converse holds stage by
  stage. -/

theorem length_trim_le (cs : List Char) : (trim cs).length ≤ cs.length :=
  (trim_sublist cs).length_le

/-- The clean text, from what is read of the text without its markup (`withoutTags`). -/
theorem clean_eq (limit : Nat) {text : String} {v : List Char}
    (h : Reads (withoutTags (trim text.toList)) v) :
    clean limit text = .ok (String.ofList ((trim v).take limit)) := by
  unfold clean
  dsimp only
  split
  · rename_i hempty
    rw [List.isEmpty_iff.1 hempty] at h
    cases h.unique Reads.nil
    cases limit <;> rfl
  · rw [h.resolve_eq]
    rfl

/-- **A text that is not too long can be cleaned**: no reference in it has more digits than the text
    has characters (`exists_reads_withoutTags`). -/
theorem exists_clean (limit : Nat) {text : String} (hlength : text.length ≤ maxDigits) :
    ∃ plain, clean limit text = .ok plain := by
  have htrim := length_trim_le text.toList
  rw [String.length_toList] at htrim
  obtain ⟨v, hv, -⟩ := exists_reads_withoutTags (htrim.trans hlength)
  exact ⟨_, clean_eq limit hv⟩

/-- A text `cs` without anything that cleaning takes away: it has no blanks at its ends, no markup
    and no invisible characters, and what looks like a reference in it stands for itself
    (`Literal`). -/
structure IsClean (cs : List Char) : Prop where
  trimmed : trim cs = cs
  noMarkup : scan cs = cs.map .char
  visible : ∀ c ∈ cs, isInvisible c = false
  literal : ∀ part ∈ (splitOn '&' cs).tail, Literal part

/-- A character `c` that cleaning leaves as it is wherever it stands. -/
def isPlain (c : Char) : Bool := c != '<' && c != '&' && c != '\r' && !isInvisible c

/-- A text of plain characters (`isPlain`) has no markup: the scanner never leaves the state of
    text. -/
theorem scan_of_plain {cs : List Char} (h : ∀ c ∈ cs, isPlain c = true) :
    scan cs = cs.map .char := by
  have hreturn : '\r' ∉ cs := fun hmem => absurd (h _ hmem) (by decide)
  rw [scan, lineFeeds_eq_self hreturn]
  clear hreturn
  generalize false = seenTag
  induction cs generalizing seenTag with
  | nil => rfl
  | cons c cs ih =>
    rw [List.forall_mem_cons] at h
    have hbracket : c ≠ '<' := by
      rintro rfl
      exact absurd h.1 (by decide)
    have hnull : c ≠ '\x00' := by
      rintro rfl
      exact absurd h.1 (by decide)
    have hstep : step seenTag .text c = ([.char c], .text) := by
      show textStep c = _
      rw [textStep, if_neg hbracket, if_neg hnull]
    rw [scanFrom, hstep]
    dsimp only
    rw [ih h.2]
    rfl

/-- **A trimmed text of plain characters is clean** (`IsClean`). -/
theorem isClean_of_plain {cs : List Char} (htrim : trim cs = cs)
    (h : ∀ c ∈ cs, isPlain c = true) : IsClean cs where
  trimmed := htrim
  noMarkup := scan_of_plain h
  visible c hc := by
    have hplain := h c hc
    simp only [isPlain, Bool.and_eq_true, Bool.not_eq_true'] at hplain
    exact hplain.2
  literal := by
    rw [splitOn_of_notMem fun hmem => absurd (h _ hmem) (by decide)]
    exact List.forall_mem_nil _

/-- A segment without blanks at its ends is all middle. -/
theorem writeSegment_of_trim {cs : List Char} (h : trim cs = cs) :
    writeSegment cs = writeMiddle cs := by
  obtain ⟨left, middle, right, rfl, hwritten, hleft, hright⟩ := writeSegment_spec cs
  obtain rfl := eq_nil_of_blank_back h fun c hc => isBlank_of_isSpace (hright c hc)
  rw [List.append_nil] at h hwritten ⊢
  obtain rfl := eq_nil_of_blank_front h fun c hc => isBlank_of_isSpace (hleft c hc)
  rw [List.nil_append, List.append_nil] at hwritten
  exact hwritten

/-- A clean text (`IsClean`) is read from what is written of it: it has no markup, and its
    references stand for themselves. -/
theorem IsClean.reads {cs : List Char} (h : IsClean cs) (hlength : cs.length ≤ maxDigits) :
    Reads (withoutTags cs) cs := by
  have hshown := map_shown_eq_self h.visible
  obtain ⟨v, hv, -, -, hself⟩ := shrinks_middle hlength
  rw [hshown] at hself
  rw [withoutTags_of_scan h.noMarkup, writeSegment_of_trim h.trimmed]
  exact hself.2 h.literal ▸ hv

/-- What is read trimmed was written by `writeMiddle` without white space around it. -/
theorem reads_writeMiddle {cs lines : List Char} (hlength : lines.length ≤ maxDigits)
    (htrim : trim cs = cs) (h : Reads (writeSegment lines) cs) : Reads (writeMiddle lines) cs := by
  obtain ⟨left, middle, right, rfl, hwritten, hleft, hright⟩ := writeSegment_spec lines
  simp only [List.length_append] at hlength
  have hmiddle : middle.length ≤ maxDigits := by omega
  obtain ⟨m, hm, -⟩ := shrinks_middle hmiddle
  rw [hwritten] at h
  obtain rfl : left ++ m ++ right = cs :=
    (((Reads.plain (ampersand_notMem_of_isSpace hleft)).append hm).append
      (Reads.plain (ampersand_notMem_of_isSpace hright))).unique h
  obtain rfl := eq_nil_of_blank_back htrim fun c hc => isBlank_of_isSpace (hright c hc)
  rw [List.append_nil] at htrim
  obtain rfl := eq_nil_of_blank_front htrim fun c hc => isBlank_of_isSpace (hleft c hc)
  rw [List.nil_append, List.nil_append, List.append_nil, List.append_nil]
  exact hm

/-- A trimmed text that is read from itself without loss is clean (`IsClean`). -/
theorem isClean_of_reads {cs : List Char} (hlength : cs.length ≤ maxDigits) (htrim : trim cs = cs)
    (hread : Reads (withoutTags cs) cs) : IsClean cs := by
  obtain ⟨v, hv, hkept⟩ := exists_reads_withoutTags hlength
  cases hv.unique hread
  have hscan := scan_eq_of_length (Nat.le_antisymm (length_kept_scan_le cs) hkept)
  have hlines : (lineFeeds cs).length = cs.length := by
    have hcount := congrArg (fun ks => (keptChars ks).length) hscan
    simp only [keptChars_map_char] at hcount
    exact Nat.le_antisymm (length_lineFeeds_le cs) (hcount ▸ hkept)
  rw [withoutTags_of_scan hscan] at hread
  have hmiddle := reads_writeMiddle (hlines ▸ hlength) htrim hread
  obtain ⟨v, hv, -, hchars, hself⟩ := shrinks_middle (hlines ▸ hlength)
  obtain rfl := hv.unique hmiddle
  rw [List.length_map, hlines] at hchars
  -- its characters are those that were shown, but for the ends of references
  have hplain : ∀ c ∈ v, isInvisible c = false ∧ c ≠ '\r' := by
    intro c hc
    rcases hchars rfl c hc with rfl | rfl | hshown
    · decide
    · decide
    · obtain ⟨d, hd, rfl⟩ := List.mem_map.1 hshown
      refine ⟨isInvisible_shown d, shown_ne_return ?_⟩
      rintro rfl
      exact return_notMem_lineFeeds v hd
  have hreturn : lineFeeds v = v := lineFeeds_eq_self fun h => (hplain _ h).2 rfl
  rw [hreturn] at hscan hself
  rw [map_shown_eq_self fun c hc => (hplain c hc).1] at hself
  exact ⟨htrim, hscan, fun c hc => (hplain c hc).1, hself.1 rfl⟩

/-- **Cleaning leaves a text as it is exactly if the text is clean.** From left to right nothing was
    lost on the way (`isClean_of_reads`); from right to left each step keeps a clean text
    (`IsClean.reads`). -/
theorem clean_eq_self_iff {limit : Nat} {text : String} (hlimit : text.length ≤ limit)
    (hlength : text.length ≤ maxDigits) :
    clean limit text = .ok text ↔ IsClean text.toList := by
  rw [← String.length_toList] at hlimit hlength
  constructor
  · intro h
    have htrim := length_trim_le text.toList
    obtain ⟨v, hv, hkept⟩ := exists_reads_withoutTags (htrim.trans hlength)
    have hscan := length_kept_scan_le (trim text.toList)
    rw [clean_eq limit hv] at h
    have htext : (trim v).take limit = text.toList := by
      rw [← Except.ok.inj h, String.toList_ofList]
    have hcut : ((trim v).take limit).length ≤ (trim v).length := by
      rw [List.length_take]
      exact Nat.min_le_right _ _
    have hplain := length_trim_le v
    rw [htext] at hcut
    -- no step made the text shorter, so each step left it as it was
    have htrimmed : trim text.toList = text.toList := trim_eq_self_of_length (by omega)
    have hread : trim v = v := trim_eq_self_of_length (by omega)
    rw [hread, List.take_of_length_le (by omega)] at htext
    rw [htext, htrimmed] at hv
    exact isClean_of_reads hlength htrimmed hv
  · intro h
    have hread := h.reads hlength
    rw [← congrArg withoutTags h.trimmed] at hread
    rw [clean_eq limit hread, h.trimmed, List.take_of_length_le hlimit, String.ofList_toList]

end PrinterConsole.Markup
