/-
  Scanning never lengthens a text, and a text of the same length is the same text.

  Inside what may be markup the scanner holds back characters that it may have to give back
  (`held`).  A step keeps or holds all that was held and its own character (`Keeps`), or no more
  than was held before (`Loses`).  That is looked at state by state in `keeps_or_loses_step`, and
  is all that the rest uses of the scanner.

  So what is kept and what is held never are more than the characters that were read, and if they
  are as many, each of the characters was kept (`scanFrom_held`, by induction on the text, for any
  state).

  Main statements: `length_kept_scan_le` and `scan_eq_of_length`.
-/
import PrinterConsole.Markup.Scan

namespace PrinterConsole.Markup

/-- The characters that are kept; a `Kept.seam` is none. -/
def keptChars (ks : List Kept) : List Char :=
  ks.filterMap fun
    | .char c => some c
    | .seam => none

theorem keptChars_append (ks js : List Kept) : keptChars (ks ++ js) = keptChars ks ++ keptChars js :=
  List.filterMap_append

theorem keptChars_map_char (cs : List Char) : keptChars (cs.map .char) = cs := by
  rw [keptChars, List.filterMap_map]
  exact List.filterMap_some

/-! ## What is held back

  In the middle of what may be a tag nothing is kept yet, but what was read may still come back as
  text (`held`).  A step either keeps the account, or it loses characters for good; so what is kept
  in the end is no longer than the text, and if it is as long it is the text. -/

/-- The characters that the scanner may still keep in a `State`; none at all where they are lost. -/
def held : State → Option (List Char)
  | .text => some []
  | .tagOpen => some ['<']
  | .endTagOpen => some ['<', '/']
  | .skipped (some raw) => some raw.reverse
  | .tag _ _ raw _ => some raw.reverse
  | _ => none

/-- A `State.tag` has the characters that were read of the tag, at least its `<`. -/
def Begun : State → Prop
  | .tag _ _ raw _ => raw ≠ []
  | _ => True

/-- How many characters are `held` back. -/
def holding (s : State) : Nat := ((held s).getD []).length

/-- The scanner keeps or holds all that was `held` and the next character `c`. -/
def Keeps (before : State) (c : Char) (result : List Kept × State) : Prop :=
  ∃ p q, held before = some p ∧ held result.2 = some q ∧
    result.1 ++ q.map .char = (p ++ [c]).map .char

/-- The scanner keeps and holds no more than was `held`, so the next character is lost. -/
def Loses (before : State) (result : List Kept × State) : Prop :=
  (keptChars result.1).length + holding result.2 ≤ holding before

/-- In a text the character null is lost; a `<` is held as the start of a tag, and all others are
    kept. -/
theorem keeps_or_loses_text (c : Char) :
    Keeps .text c (textStep c) ∨ Loses .text (textStep c) := by
  unfold textStep
  split
  · rename_i hc
    subst hc
    exact .inl ⟨[], ['<'], rfl, rfl, rfl⟩
  · split
    · exact .inr (Nat.le_refl _)
    · exact .inl ⟨[], [], rfl, rfl, rfl⟩

/-- A step in what may be skipped: held back in `raw`, or lost already. -/
theorem keeps_or_loses_skipped (raw : Option (List Char)) (c : Char) :
    Keeps (.skipped raw) c (skippedStep raw c) ∨ Loses (.skipped raw) (skippedStep raw c) := by
  unfold skippedStep
  cases raw with
  | none => split <;> exact .inr (Nat.le_refl _)
  | some raw =>
    left
    split
    · exact ⟨raw.reverse, [], rfl, rfl, by simp⟩
    · exact ⟨raw.reverse, raw.reverse ++ [c], rfl, by simp [held], by simp⟩

/-- What a tag leaves (`tagLeaves`) is one character at most. -/
theorem length_tagLeaves_le (seenTag isStart : Bool) (name : List Char) :
    (keptChars (tagLeaves seenTag isStart name)).length ≤ 1 := by
  unfold tagLeaves
  dsimp only
  split <;> decide

/-- **A step keeps everything, or loses a character.** One case for each `State`, and in it one for
    each character that the scanner tells apart there. -/
theorem keeps_or_loses_step {s : State} (hs : Begun s) (seenTag : Bool) (c : Char) :
    Keeps s c (step seenTag s c) ∨ Loses s (step seenTag s c) := by
  cases s with
  | text => exact keeps_or_loses_text c
  | tagOpen =>
    unfold step
    dsimp only
    split
    · exact .inr (Nat.zero_le _)
    · split
      · rename_i hc
        subst hc
        exact .inl ⟨['<'], ['<', '/'], rfl, rfl, rfl⟩
      · split
        · exact .inl ⟨['<'], ['<', c], rfl, rfl, rfl⟩
        · split
          · rename_i hc
            subst hc
            exact .inl ⟨['<'], [], rfl, rfl, rfl⟩
          · split
            · exact .inr (Nat.zero_le _)
            · -- the `<` is text, and the character is read as one of text
              rcases keeps_or_loses_text c with ⟨p, q, hp, hq, hkept⟩ | hloses
              · cases hp
                refine .inl ⟨['<'], q, rfl, hq, ?_⟩
                exact congrArg (Kept.char '<' :: ·) hkept
              · right
                show (keptChars (textStep c).1).length + 1 + holding (textStep c).2 ≤ 1
                change (keptChars (textStep c).1).length + holding (textStep c).2 ≤ 0 at hloses
                omega
  | endTagOpen =>
    unfold step
    dsimp only
    split
    · exact .inl ⟨['<', '/'], ['<', '/', c], rfl, rfl, rfl⟩
    · split
      · exact .inr (Nat.zero_le _)
      · exact keeps_or_loses_skipped (some ['/', '<']) c
  | declaration seen =>
    right
    simp only [step, declarationStep, skippedStep, Option.map_none]
    repeat' split
    all_goals exact Nat.le_refl _
  | skipped raw => exact keeps_or_loses_skipped raw c
  | commentStart | commentStartDash | comment | commentEndDash | commentEnd | commentEndBang
    | documentType =>
    -- nothing is held in a comment or a document type, and nothing kept
    right
    unfold step
    dsimp only
    repeat' split
    all_goals exact Nat.le_refl _
  | tag isStart name raw place =>
    unfold step
    dsimp only
    split
    · right
      have hone := length_tagLeaves_le seenTag isStart name
      have hraw : 0 < raw.reverse.length := by
        rw [List.length_reverse]
        exact List.length_pos_iff.2 hs
      exact Nat.le_trans hone hraw
    · exact .inl ⟨raw.reverse, raw.reverse ++ [c], rfl, by simp [held], rfl⟩

theorem begun_textStep (c : Char) : Begun (textStep c).2 := by
  unfold textStep
  repeat' split
  all_goals trivial

theorem begun_skippedStep (raw : Option (List Char)) (c : Char) : Begun (skippedStep raw c).2 := by
  unfold skippedStep
  dsimp only
  split <;> trivial

/-- A step leaves a state in which a tag has `Begun`. -/
theorem begun_step (s : State) (seenTag : Bool) (c : Char) : Begun (step seenTag s c).2 := by
  cases s with
  | text => exact begun_textStep c
  | tagOpen =>
    unfold step
    dsimp only
    repeat' split
    all_goals first | trivial | exact List.cons_ne_nil _ _ | exact begun_textStep c
  | endTagOpen =>
    unfold step
    dsimp only
    repeat' split
    all_goals first | trivial | exact List.cons_ne_nil _ _ | exact begun_skippedStep _ c
  | declaration seen =>
    unfold step declarationStep
    dsimp only
    repeat' split
    all_goals first | trivial | exact begun_skippedStep _ c
  | skipped raw => exact begun_skippedStep raw c
  | commentStart | commentStartDash | comment | commentEndDash | commentEnd | commentEndBang
    | documentType =>
    unfold step
    dsimp only
    repeat' split
    all_goals trivial
  | tag isStart name raw place =>
    unfold step
    dsimp only
    split
    · trivial
    · exact List.cons_ne_nil _ _

/-- A state that gives back all that is `held` keeps as many characters. -/
theorem finish_of_all {s : State} {p : List Char} (hp : held s = some p)
    (hfinish : finish s = p.map .char) :
    (keptChars (finish s)).length ≤ holding s ∧
      ∀ q, held s = some q → (keptChars (finish s)).length = holding s →
        finish s = q.map .char := by
  rw [hfinish, keptChars_map_char, holding, hp]
  refine ⟨Nat.le_refl _, fun q hq _ => ?_⟩
  cases hq
  rfl

/-- A state that keeps nothing loses what is `held`. -/
theorem finish_of_none {s : State} (hfinish : finish s = [])
    (hheld : ∀ p, held s = some p → p ≠ []) :
    (keptChars (finish s)).length ≤ holding s ∧
      ∀ p, held s = some p → (keptChars (finish s)).length = holding s →
        finish s = p.map .char := by
  rw [hfinish]
  refine ⟨Nat.zero_le _, fun p hp hlength => ?_⟩
  rw [holding, hp] at hlength
  exact absurd (List.length_eq_zero_iff.1 hlength.symm) (hheld p hp)

/-- At the end of the text what is `held` is kept, or some of it is lost: each state is as in
    `finish_of_all` or as in `finish_of_none`. -/
theorem finish_held {s : State} (hs : Begun s) :
    (keptChars (finish s)).length ≤ holding s ∧
      ∀ p, held s = some p → (keptChars (finish s)).length = holding s → finish s = p.map .char := by
  cases s with
  | text => exact finish_of_all rfl rfl
  | tagOpen => exact finish_of_all rfl rfl
  | endTagOpen => exact finish_of_all rfl rfl
  | skipped raw =>
    cases raw with
    | none => exact finish_of_none rfl fun p hp => by cases hp
    | some raw => exact finish_of_all rfl rfl
  | declaration _ | commentStart | commentStartDash | comment | commentEndDash | commentEnd
    | commentEndBang | documentType => exact finish_of_none rfl fun p hp => by cases hp
  | tag isStart name raw place =>
    have hheld : ∀ p, held (.tag isStart name raw place) = some p → p ≠ [] := by
      intro p hp
      cases hp
      exact fun h => hs (List.reverse_eq_nil_iff.1 h)
    cases place with
    | name | attributeName | afterAttributeName | plainValue => exact finish_of_all rfl rfl
    | beforeAttribute | beforeValue | quotedValue _ | afterValue | solidus =>
      exact finish_of_none rfl hheld

/-- **What is kept of a text**: at most what was `held` and the characters of the text, and exactly
    these if they are as many. -/
theorem scanFrom_held {s : State} (hs : Begun s) (seenTag : Bool) (cs : List Char) :
    (keptChars (scanFrom seenTag s cs)).length ≤ holding s + cs.length ∧
      ∀ p, held s = some p → (keptChars (scanFrom seenTag s cs)).length = holding s + cs.length →
        scanFrom seenTag s cs = (p ++ cs).map .char := by
  induction cs generalizing s seenTag with
  | nil =>
    simp only [scanFrom, List.length_nil, Nat.add_zero, List.append_nil]
    exact finish_held hs
  | cons c rest ih =>
    obtain ⟨hle, hall⟩ := ih (begun_step s seenTag c) (seenTag || endsTag s c)
    rw [scanFrom]
    dsimp only
    rw [keptChars_append, List.length_append, List.length_cons]
    rcases keeps_or_loses_step hs seenTag c with ⟨p, q, hp, hq, hkept⟩ | hloses
    · -- what is kept now and what is still held are, together, what was held and one character
      have hcount : (keptChars (step seenTag s c).1).length + q.length = p.length + 1 := by
        have hlength := congrArg (fun ks => (keptChars ks).length) hkept
        simpa only [keptChars_append, keptChars_map_char, List.length_append, List.length_singleton]
          using hlength
      have hnext : holding (step seenTag s c).2 = q.length := by rw [holding, hq, Option.getD_some]
      have hbefore : holding s = p.length := by rw [holding, hp, Option.getD_some]
      refine ⟨by omega, fun p' hp' hlength => ?_⟩
      cases hp.symm.trans hp'
      rw [hall q hq (by omega), List.map_append, ← List.append_assoc, hkept, ← List.map_append,
        List.append_assoc, List.singleton_append]
    · unfold Loses at hloses
      exact ⟨by omega, fun _ _ hlength => by omega⟩

/-! ## Whole texts

  Before it is scanned, a text has its line breaks made alike, which makes it shorter or leaves it
  alone. -/

theorem length_lineFeeds_le (cs : List Char) : (lineFeeds cs).length ≤ cs.length := by
  fun_induction lineFeeds cs with
  | case1 rest ih => simp only [List.length_cons]; omega
  | case2 rest h ih => simp only [List.length_cons]; omega
  | case3 c rest h h' ih => simp only [List.length_cons]; omega
  | case4 => exact Nat.le_refl _

/-- No line end is a carriage return: `lineFeeds` makes line feeds of all of them. -/
theorem return_notMem_lineFeeds (cs : List Char) : '\r' ∉ lineFeeds cs := by
  fun_induction lineFeeds cs with
  | case1 rest ih => exact fun h => ih (List.mem_of_ne_of_mem (by decide) h)
  | case2 rest h ih => exact fun h => ih (List.mem_of_ne_of_mem (by decide) h)
  | case3 c rest h h' ih =>
    intro hmem
    rcases List.mem_cons.1 hmem with hc | hmem
    · exact h' hc.symm
    · exact ih hmem
  | case4 => exact List.not_mem_nil

/-- A text without carriage returns is as `lineFeeds` leaves it. -/
theorem lineFeeds_eq_self {cs : List Char} (h : '\r' ∉ cs) : lineFeeds cs = cs := by
  fun_induction lineFeeds cs with
  | case1 rest ih => exact absurd List.mem_cons_self h
  | case2 rest h' ih => exact absurd List.mem_cons_self h
  | case3 c rest h' h'' ih => rw [ih fun hmem => h (List.mem_cons_of_mem _ hmem)]
  | case4 => rfl

/-- **Scanning never lengthens a text**: `scan` keeps at most as many characters as there are. -/
theorem length_kept_scan_le (cs : List Char) : (keptChars (scan cs)).length ≤ cs.length := by
  have h := (scanFrom_held (s := .text) trivial false (lineFeeds cs)).1
  have hzero : holding .text = 0 := rfl
  rw [hzero, Nat.zero_add] at h
  exact Nat.le_trans h (length_lineFeeds_le cs)

/-- **A text of which as many characters are kept is kept whole**, but for its line ends
    (`lineFeeds`). -/
theorem scan_eq_of_length {cs : List Char} (h : (keptChars (scan cs)).length = cs.length) :
    scan cs = (lineFeeds cs).map .char := by
  have hle := length_lineFeeds_le cs
  obtain ⟨hkept, hall⟩ := scanFrom_held (s := .text) trivial false (lineFeeds cs)
  have hzero : holding .text = 0 := rfl
  rw [hzero, Nat.zero_add] at hkept hall
  have hscan : scan cs = scanFrom false .text (lineFeeds cs) := rfl
  rw [hscan] at h
  rw [hscan, hall [] rfl (by omega), List.nil_append]

end PrinterConsole.Markup
