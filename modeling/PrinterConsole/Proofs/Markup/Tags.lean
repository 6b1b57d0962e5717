/-
  Where a tag in a cleaned text comes from.

  What is written of a text without its markup holds no `<` at all: what is left of them is
  escaped (`bracket_notMem_withoutTags`).  But its references are read after its markup was
  dropped, so a tag that was written with references comes to be, and so does one of which the
  scanner took only a part away (`<<b>b>`).

  To say which texts that are, the cleaned text is told without escaping: each text between two
  seams stays as it is, but for its invisible characters and its closed references, which are read
  where they stand (`told`).  Writing and reading agree with that piece by piece (`gives_part`,
  `gives_middle`, `gives_segment`), since no piece ends a reference in the middle (`Gives`).  So
  `resolve_withoutTags` needs no look at the text as a whole.

  A `<` that is told was kept, or a closed reference stands for it (`IsBare`).

  Main statement: `clean_tagless_iff`.
-/
import PrinterConsole.Proofs.Markup.LongReference

namespace PrinterConsole.Markup

open PrinterConsole.Number PrinterConsole.Text

/-! ## Tags

  A tag begins with a `<`, and no tag is without one; that is all that most of what follows needs.
  Trimming takes no tag away, because it takes neither of its ends. -/

/-- A text that begins with `<` or `</` and a letter, and runs to a `>`. -/
inductive IsTag : List Char → Prop where
  | start {c : Char} (hc : isLetter c = true) (cs : List Char) : IsTag ('<' :: c :: (cs ++ ['>']))
  | stop {c : Char} (hc : isLetter c = true) (cs : List Char) :
      IsTag ('<' :: '/' :: c :: (cs ++ ['>']))

/-- An `IsTag` stands somewhere in the text. -/
def HasTag (cs : List Char) : Prop := ∃ tag, IsTag tag ∧ tag <:+: cs

theorem HasTag.mono {cs ds : List Char} (h : HasTag cs) (hsub : cs <:+: ds) : HasTag ds := by
  obtain ⟨tag, htag, hcs⟩ := h
  exact ⟨tag, htag, hcs.trans hsub⟩

theorem IsTag.head {tag : List Char} (h : IsTag tag) : ∃ rest, tag = '<' :: rest := by
  cases h with
  | start hc cs => exact ⟨_, rfl⟩
  | stop hc cs => exact ⟨_, rfl⟩

theorem IsTag.last {tag : List Char} (h : IsTag tag) : ∃ rest, tag.reverse = '>' :: rest := by
  cases h with
  | @start c hc cs => exact ⟨('<' :: c :: cs).reverse, by simp⟩
  | @stop c hc cs => exact ⟨('<' :: '/' :: c :: cs).reverse, by simp⟩

/-- What stands in a text and begins with no blank also stands behind the blanks at its start, which
    `dropWhile` takes away. -/
theorem infix_dropWhile {c : Char} (hc : isBlank c = false) {rest cs : List Char}
    (h : c :: rest <:+: cs) : c :: rest <:+: cs.dropWhile isBlank := by
  induction cs with
  | nil => exact h
  | cons d cs ih =>
    by_cases hd : isBlank d = true
    · rw [List.dropWhile_cons_of_pos hd]
      rcases List.infix_cons_iff.1 h with hprefix | hinfix
      · obtain rfl := (List.cons_prefix_cons.1 hprefix).1
        rw [hc] at hd
        cases hd
      · exact ih hinfix
    · rwa [List.dropWhile_cons_of_neg hd]

/-- **`trim` takes no tag away**: a tag neither begins nor ends with a blank. -/
theorem hasTag_trim {cs : List Char} : HasTag (trim cs) ↔ HasTag cs := by
  constructor
  · intro h
    have hstart : trimStart cs <:+: cs := (List.dropWhile_suffix _).isInfix
    have hend : trim cs <:+: trimStart cs := by
      rw [← List.reverse_infix, trim, trimEnd, List.reverse_reverse]
      exact (List.dropWhile_suffix _).isInfix
    exact h.mono (hend.trans hstart)
  · rintro ⟨tag, htag, h⟩
    refine ⟨tag, htag, ?_⟩
    obtain ⟨rest, rfl⟩ := htag.head
    have hstart := infix_dropWhile (by decide) h
    obtain ⟨back, hback⟩ := htag.last
    rw [← List.reverse_infix, hback] at hstart
    rw [← List.reverse_infix, trim, trimEnd, List.reverse_reverse, hback]
    exact infix_dropWhile (by decide) hstart

/-! ## Before the references are read

  What the scanner keeps is escaped again before the references are read, so at that stage no `<` is
  left in it. -/

/-- `escapeText` writes every bracket by its name. -/
theorem bracket_notMem_escapeText (cs : List Char) : '<' ∉ escapeText cs := by
  intro hmem
  obtain ⟨c, -, hc⟩ := List.mem_flatMap.1 hmem
  unfold escapeChar at hc
  split at hc
  · exact absurd hc (by decide)
  · split at hc
    · exact absurd hc (by decide)
    · split at hc
      · exact absurd hc (by decide)
      · rename_i hbracket _
        exact hbracket (List.mem_singleton.1 hc).symm

/-- A reference by number that is closed consists of digits and what introduces them. -/
theorem bracket_notMem_numberAt {rest : List Char} (h : (numberAt rest).2.2.head? = some ';') :
    '<' ∉ (numberAt rest).1 ++ (numberAt rest).2.1 := by
  cases rest with
  | nil => cases h
  | cons x more =>
    unfold numberAt at h ⊢
    dsimp only at h ⊢
    split at h
    · rename_i hx
      have hmark : '<' ∉ ['#', x] := by rcases hx with rfl | rfl <;> decide
      have hdigits : '<' ∉ (numberBody isHexDigit more).1 :=
        notMem_of_forall (by decide) (numberBody_spec h).2.2
      rw [if_pos hx, List.mem_append, not_or]
      exact ⟨hmark, hdigits⟩
    · rename_i hx
      have hmark : '<' ∉ ['#'] := by decide
      have hdigits : '<' ∉ (numberBody isAsciiDigit (x :: more)).1 :=
        notMem_of_forall (by decide) (numberBody_spec h).2.2
      rw [if_neg hx, List.mem_append, not_or]
      exact ⟨hmark, hdigits⟩

/-- What `referenceAt` finds between an ampersand and a semicolon has no bracket. -/
theorem bracket_notMem_entity {part entity : List Char} (h : referenceAt part = some entity) :
    '<' ∉ entity := by
  by_cases hnumber : ∃ rest, part = '#' :: rest
  · obtain ⟨rest, rfl⟩ := hnumber
    rw [referenceAt_number] at h
    split at h
    · rename_i hsemicolon
      cases h
      exact bracket_notMem_numberAt hsemicolon
    · cases h
  · rw [referenceAt_name hnumber] at h
    split at h
    · cases h
      exact notMem_of_forall (p := fun c => !endsReference c) (by decide)
        fun c hc => List.mem_takeWhile_imp (p := fun c => !endsReference c) hc
    · cases h

/-- What is written for a part is escaped, so there is no `<` in it. -/
theorem bracket_notMem_writePart (part : List Char) : '<' ∉ writePart part := by
  cases href : referenceAt part with
  | none =>
    rw [writePart, href]
    exact bracket_notMem_escapeText _
  | some entity =>
    rw [writePart_of_reference href, List.mem_append, not_or]
    refine ⟨?_, bracket_notMem_escapeText _⟩
    rw [List.mem_cons, List.mem_append, not_or, not_or]
    exact ⟨by decide, bracket_notMem_entity href, by decide⟩

/-- `bracket_notMem_writePart` along all parts. -/
theorem bracket_notMem_writeMiddle (cs : List Char) : '<' ∉ writeMiddle cs := by
  unfold writeMiddle
  split
  · exact List.not_mem_nil
  · rw [List.mem_append, not_or]
    refine ⟨bracket_notMem_escapeText _, fun hmem => ?_⟩
    obtain ⟨part, -, hpart⟩ := List.mem_flatMap.1 hmem
    exact bracket_notMem_writePart part hpart

/-- **Before its references are read, no `<` is left of a text**, whatever `scan` keeps of it. -/
theorem bracket_notMem_withoutTags (cs : List Char) : '<' ∉ withoutTags cs := by
  intro hmem
  obtain ⟨segment, -, hsegment⟩ := List.mem_flatMap.1 hmem
  obtain ⟨left, middle, right, -, hwritten, hleft, hright⟩ := writeSegment_spec segment
  rw [hwritten, List.mem_append, List.mem_append] at hsegment
  rcases hsegment with (h | h) | h
  · exact notMem_of_forall (by decide) hleft h
  · exact bracket_notMem_writeMiddle middle h
  · exact notMem_of_forall (by decide) hright h

/-! ## Reading piece by piece

  References are read from left to right, and none of them begins in one piece and ends in the next.
  So a text gives what its pieces give, one behind the other, up to the first fault (`Gives`). -/

/-- A `written` text is read with this `result`, whatever follows it, and what follows it is read on
    its own.  Unlike `Reads`, the result may be a fault. -/
def Gives (written : List Char) (result : Except Fault (List Char)) : Prop :=
  ∀ rest, resolve (written ++ rest) = result >>= fun plain => (resolve rest).map (plain ++ ·)

theorem Reads.gives {written plain : List Char} (h : Reads written plain) :
    Gives written (.ok plain) := h

namespace Gives

/-- `Gives` for a text with nothing behind it. -/
theorem resolve_eq {written : List Char} {result : Except Fault (List Char)}
    (h : Gives written result) : resolve written = result := by
  have hall := h []
  rw [List.append_nil, resolve_nil] at hall
  rw [hall]
  cases result with
  | error e => rfl
  | ok plain => exact congrArg Except.ok (List.append_nil plain)

/-- What two texts give, one behind the other: the first fault, or both results. -/
theorem append {w w' : List Char} {r r' : Except Fault (List Char)} (h : Gives w r)
    (h' : Gives w' r') : Gives (w ++ w') (r >>= fun plain => r'.map (plain ++ ·)) := by
  intro rest
  rw [List.append_assoc, h, h']
  cases r with
  | error e => rfl
  | ok p =>
    cases r' with
    | error e => rfl
    | ok p' =>
      cases resolve rest with
      | error e => rfl
      | ok plain => exact congrArg Except.ok (List.append_assoc p p' plain).symm

theorem append_reads {w w' p' : List Char} {r : Except Fault (List Char)} (h : Gives w r)
    (h' : Reads w' p') : Gives (w ++ w') (r.map (· ++ p')) := by
  have hboth := h.append h'.gives
  cases r with
  | error e => exact hboth
  | ok p => exact hboth

/-- Any number of `items` that are read on their own are read one after the other. -/
theorem flatMap {α : Type} {write : α → List Char} {tell : α → Except Fault (List Char)}
    (h : ∀ a, Gives (write a) (tell a)) (items : List α) :
    Gives (items.flatMap write) ((items.mapM tell).map List.flatten) := by
  induction items with
  | nil => exact Reads.nil.gives
  | cons a items ih =>
    have hboth := (h a).append ih
    rw [List.flatMap_cons, List.mapM_cons]
    cases hfirst : tell a with
    | error e =>
      rw [hfirst] at hboth
      exact hboth
    | ok first =>
      rw [hfirst] at hboth
      cases hrest : items.mapM tell with
      | error e =>
        rw [hrest] at hboth
        exact hboth
      | ok rest =>
        rw [hrest] at hboth
        exact hboth

end Gives

/-- A `reference` is refused for one cause only, the number of its digits. -/
theorem reference_error {cs : List Char} {e : Fault} (h : reference cs = .error e) :
    e = .badNumeral := by
  unfold reference at h
  split at h
  · split at h
    · split at h
      · cases h
      · exact (Except.error.inj h).symm
    · split at h
      · split at h <;> cases h
      · cases h
  · split at h <;> cases h

/-- **A closed reference (`IsEntity`) is read on its own**, also if it is refused. -/
theorem IsEntity.gives {entity : List Char} (h : IsEntity entity) :
    Gives ('&' :: (entity ++ [';'])) (resolve ('&' :: (entity ++ [';']))) := by
  have hreads : ∀ {written plain : List Char}, Reads written plain →
      Gives written (resolve written) := by
    intro written plain hread
    rw [hread.resolve_eq]
    exact hread.gives
  cases h with
  | @decimal ds hds =>
    by_cases hlength : ds.length ≤ maxDigits
    · obtain ⟨v, hv, -⟩ := reads_decimal hds hlength
      exact hreads hv
    · -- a number of too many digits is refused, whatever follows it
      have hrefused : ∀ rest,
          resolve ('&' :: ('#' :: ds ++ [';']) ++ rest) = .error .badNumeral := by
        intro rest
        have hbegins : '#' :: ds <+: '#' :: ds ++ [';'] ++ rest := by
          rw [List.append_assoc]
          exact List.prefix_append _ _
        obtain ⟨e, he⟩ := reference_eq_error_iff.2 ⟨ds, hbegins, hds, Nat.lt_of_not_le hlength⟩
        rw [List.cons_append, resolve_ampersand_error he, reference_error he]
      have halone := hrefused []
      rw [List.append_nil] at halone
      intro rest
      rw [hrefused rest, halone]
      rfl
  | hexadecimal hx hds =>
    obtain ⟨v, hv, -⟩ := reads_hexadecimal hx hds
    exact hreads hv
  | name hc hname =>
    obtain ⟨v, hv, -⟩ := reads_name hc hname
    exact hreads hv

/-! ## What a text tells

  `told` is the text that comes out, said without the writing and reading in between: each part by
  itself, with its reference read and the rest as it was. -/

/-- What stands between two ampersands, with the first of them: a closed reference at its start is
    read, and the rest stays.  What `writePart` writes is read as this. -/
def toldPart (part : List Char) : Except Fault (List Char) :=
  match referenceAt part with
  | some entity =>
    (resolve ('&' :: (entity ++ [';']))).map (· ++ part.drop (entity.length + 1))
  | none => .ok ('&' :: part)

/-- A text with its closed references read where they stand; what `writeMiddle` writes is read as
    this. -/
def toldMiddle (cs : List Char) : Except Fault (List Char) :=
  match splitOn '&' (cs.map shown) with
  | [] => .ok []
  | first :: parts => ((parts.mapM toldPart).map List.flatten).map (first ++ ·)

/-- A text without the white space around it (`isSpace`). -/
def stripSpace (cs : List Char) : List Char :=
  ((cs.dropWhile isSpace).reverse.dropWhile isSpace).reverse

/-- The text between two seams; the white space around it stays as it is.  What `writeSegment`
    writes is read as this. -/
def toldSegment (cs : List Char) : Except Fault (List Char) :=
  let left := cs.takeWhile isSpace
  let right := ((cs.dropWhile isSpace).reverse.takeWhile isSpace).reverse
  ((toldMiddle (stripSpace cs)).map (left ++ ·)).map (· ++ right)

/-- A text without its markup, with its closed references read where they stand: `toldSegment` for
    each text that `scan` keeps between two seams. -/
def told (cs : List Char) : Except Fault (List Char) :=
  ((segments (scan cs)).mapM toldSegment).map List.flatten

/-- What is written for a part resolves to what is `told` of it, the fault included. -/
theorem gives_part (part : List Char) : Gives (writePart part) (toldPart part) := by
  cases href : referenceAt part with
  | none =>
    have hread : Gives (writePart part) (.ok ('&' :: part)) := by
      rw [writePart, href]
      exact (reads_escapeText _).gives
    rwa [toldPart, href]
  | some entity =>
    rw [writePart_of_reference href, toldPart, href]
    exact (referenceAt_spec href).1.gives.append_reads (reads_escapeText _)

/-- `gives_part` along all parts between the blanks. -/
theorem gives_middle (cs : List Char) : Gives (writeMiddle cs) (toldMiddle cs) := by
  show Gives (match splitOn '&' (cs.map shown) with
    | [] => []
    | first :: parts => escapeText first ++ parts.flatMap writePart) _
  unfold toldMiddle
  cases splitOn '&' (cs.map shown) with
  | nil => exact Reads.nil.gives
  | cons first parts =>
    exact (reads_escapeText first).gives.append (Gives.flatMap gives_part parts)

theorem gives_segment (cs : List Char) : Gives (writeSegment cs) (toldSegment cs) := by
  have hspace : ∀ {white : List Char}, (∀ c ∈ white, isSpace c = true) → Reads white white :=
    fun h => Reads.plain (ampersand_notMem_of_isSpace h)
  have hleft := hspace fun c hc => List.mem_takeWhile_imp (l := cs) hc
  have hright : Reads ((cs.dropWhile isSpace).reverse.takeWhile isSpace).reverse _ :=
    hspace fun c hc => List.mem_takeWhile_imp (List.mem_reverse.1 hc)
  exact (hleft.gives.append (gives_middle _)).append_reads hright

/-- **Writing a text as markup and reading its references gives what it tells**: no escaping is left
    in `told`. -/
theorem resolve_withoutTags (cs : List Char) : resolve (withoutTags cs) = told cs :=
  (Gives.flatMap gives_segment (segments (scan cs))).resolve_eq

/-! ## Cleaning -/

/-- So cleaning is telling (`told`), trimming and cutting. -/
theorem clean_eq_told (limit : Nat) (text : String) :
    clean limit text =
      (told (trim text.toList)).map fun v => String.ofList ((trim v).take limit) := by
  rw [← resolve_withoutTags]
  unfold clean
  dsimp only
  split
  · rename_i hempty
    rw [List.isEmpty_iff.1 hempty]
    show Except.ok "" = Except.ok (String.ofList (List.take limit []))
    rw [List.take_nil]
  · cases resolve (withoutTags (trim text.toList)) with
    | error e => rfl
    | ok v => rfl

/-! ## Brackets that are told

  A `<` in what is told comes from a reference.  A text without such references is bare (`IsBare`),
  and tells none. -/

/-- The closed references of a text, as `referenceAt` finds them behind its ampersands. -/
def entities (cs : List Char) : List (List Char) :=
  (splitOn '&' (cs.map shown)).tail.filterMap referenceAt

/-- A text that tells no `<`: it has none, and none of its closed references (`entities`) stands for
    one. -/
def IsBare (cs : List Char) : Prop :=
  '<' ∉ cs ∧ ∀ entity ∈ entities (stripSpace cs), ∀ v,
    resolve ('&' :: (entity ++ [';'])) = .ok v → '<' ∉ v

theorem bracket_notMem_shown {cs : List Char} (h : '<' ∉ cs) : '<' ∉ cs.map shown := by
  intro hmem
  obtain ⟨c, hc, hshown⟩ := List.mem_map.1 hmem
  unfold shown at hshown
  split at hshown
  · exact absurd hshown (by decide)
  · exact h (hshown ▸ hc)

/-- A part tells no `<` of its own; one can only come out of its reference. -/
theorem bracket_notMem_toldPart {part v : List Char} (hpart : '<' ∉ part)
    (hread : ∀ entity, referenceAt part = some entity → ∀ v,
      resolve ('&' :: (entity ++ [';'])) = .ok v → '<' ∉ v)
    (h : toldPart part = .ok v) : '<' ∉ v := by
  unfold toldPart at h
  split at h
  · rename_i entity href
    obtain ⟨value, hvalue, rfl⟩ := map_eq_ok.1 h
    rw [List.mem_append, not_or]
    exact ⟨hread entity href value hvalue, fun hmem => hpart (List.mem_of_mem_drop hmem)⟩
  · cases h
    rw [List.mem_cons, not_or]
    exact ⟨by decide, hpart⟩

/-- As for a part (`bracket_notMem_toldPart`), along all parts between the blanks of a segment. -/
theorem bracket_notMem_toldMiddle {cs v : List Char} (hcs : '<' ∉ cs)
    (hread : ∀ entity ∈ entities cs, ∀ v,
      resolve ('&' :: (entity ++ [';'])) = .ok v → '<' ∉ v)
    (h : toldMiddle cs = .ok v) : '<' ∉ v := by
  obtain ⟨first, parts, hsplit, hjoin, -, -⟩ := exists_splitOn '&' (cs.map shown)
  have hshown := bracket_notMem_shown hcs
  rw [← hjoin, List.mem_append, not_or] at hshown
  unfold entities at hread
  unfold toldMiddle at h
  rw [hsplit] at hread h
  obtain ⟨_, hparts, rfl⟩ := map_eq_ok.1 h
  obtain ⟨pieces, hpieces, rfl⟩ := map_eq_ok.1 hparts
  rw [List.mem_append, not_or]
  refine ⟨hshown.1, fun hmem => ?_⟩
  obtain ⟨piece, hpiece, hbracket⟩ := List.mem_flatten.1 hmem
  obtain ⟨part, hpart, htold⟩ := exists_of_mapM_ok hpieces piece hpiece
  refine bracket_notMem_toldPart (fun hin => hshown.2 ?_) (fun entity href => ?_) htold hbracket
  · exact List.mem_flatMap.2 ⟨part, hpart, List.mem_cons_of_mem _ hin⟩
  · exact hread entity (List.mem_filterMap.2 ⟨part, hpart, href⟩)

/-- A bare segment (`IsBare`) has neither a `<` nor a reference to one, hence it tells none. -/
theorem bracket_notMem_toldSegment {cs v : List Char} (hbare : IsBare cs)
    (h : toldSegment cs = .ok v) : '<' ∉ v := by
  obtain ⟨hcs, hread⟩ := hbare
  have hrest : '<' ∉ (cs.dropWhile isSpace).reverse := fun hmem =>
    hcs ((List.dropWhile_sublist _).subset (List.mem_reverse.1 hmem))
  have hmiddle : '<' ∉ stripSpace cs := fun hmem =>
    hrest ((List.dropWhile_sublist _).subset (List.mem_reverse.1 hmem))
  obtain ⟨_, hfront, rfl⟩ := map_eq_ok.1 h
  obtain ⟨middle, htold, rfl⟩ := map_eq_ok.1 hfront
  rw [List.mem_append, List.mem_append, not_or, not_or]
  refine ⟨⟨fun hmem => ?_, bracket_notMem_toldMiddle hmiddle hread htold⟩, fun hmem => ?_⟩
  · exact hcs ((List.takeWhile_prefix _).subset hmem)
  · exact hrest ((List.takeWhile_prefix _).subset (List.mem_reverse.1 hmem))

theorem bracket_notMem_told {cs v : List Char} (hbare : ∀ segment ∈ segments (scan cs), IsBare segment)
    (h : told cs = .ok v) : '<' ∉ v := by
  obtain ⟨pieces, hpieces, rfl⟩ := map_eq_ok.1 h
  intro hmem
  obtain ⟨piece, hpiece, hbracket⟩ := List.mem_flatten.1 hmem
  obtain ⟨segment, hsegment, htold⟩ := exists_of_mapM_ok hpieces piece hpiece
  exact bracket_notMem_toldSegment (hbare segment hsegment) htold hbracket

/-! ## Tags in a cleaned text -/

/-- **Where a tag in a cleaned text comes from.** Before the references are read no `<` is left of
    the text, and the cleaned text is what the text tells (`told`), trimmed and cut.  So no `limit`
    gives a text with a tag exactly if the text tells none; and if no `<` is kept of the text and no
    closed reference in it stands for one (`IsBare`), there is not even a `<` in the cleaned
    text. -/
theorem clean_tagless_iff (text : String) :
    '<' ∉ withoutTags (trim text.toList) ∧
    (∀ limit, clean limit text =
      (told (trim text.toList)).map fun v => String.ofList ((trim v).take limit)) ∧
    ((∀ limit plain, clean limit text = .ok plain → ¬ HasTag plain.toList) ↔
      ∀ v, told (trim text.toList) = .ok v → ¬ HasTag v) ∧
    ((∀ segment ∈ segments (scan (trim text.toList)), IsBare segment) →
      ∀ limit plain, clean limit text = .ok plain → '<' ∉ plain.toList) := by
  have hcut : ∀ limit v, (trim v).take limit <:+: trim v :=
    fun limit v => (List.take_prefix _ _).isInfix
  refine ⟨bracket_notMem_withoutTags _, fun limit => clean_eq_told limit text, ?_, ?_⟩
  · constructor
    · intro hall v hv htag
      have hclean : clean (trim v).length text = .ok (String.ofList (trim v)) := by
        rw [clean_eq_told, hv, Except.map, List.take_length]
      refine hall _ _ hclean ?_
      rw [String.toList_ofList]
      exact hasTag_trim.2 htag
    · intro hall limit plain h htag
      rw [clean_eq_told] at h
      obtain ⟨v, hv, rfl⟩ := map_eq_ok.1 h
      rw [String.toList_ofList] at htag
      exact hall v hv (hasTag_trim.1 (htag.mono (hcut limit v)))
  · intro hbare limit plain h hbracket
    rw [clean_eq_told] at h
    obtain ⟨v, hv, rfl⟩ := map_eq_ok.1 h
    rw [String.toList_ofList] at hbracket
    exact bracket_notMem_told hbare hv ((trim_sublist v).subset ((hcut limit v).subset hbracket))

/-- **Cleaning does not keep tags out**: one written with references, `&#60;b&#62;`, comes
    through. -/
theorem not_forall_clean_tagless :
    ¬ ∀ (limit : Nat) (text plain : String), clean limit text = .ok plain →
      ¬ HasTag plain.toList := by
  intro hall
  have hclean : clean 127 "&#60;b&#62;Hall" = .ok "<b>Hall" :=
    eq_ok_of_toOption (by decide +kernel)
  refine hall _ _ _ hclean ⟨['<', 'b', '>'], .start (by decide) [], ?_⟩
  exact ⟨[], ['H', 'a', 'l', 'l'], by decide⟩

/-- So does one that was around another. -/
example : (told "<<b>b>Hall".toList).toOption = some "<b>Hall".toList := by decide +kernel

end PrinterConsole.Markup
