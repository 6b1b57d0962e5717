/-
  Which size an editor of loaded media shows.

  The options are the sizes of the printer in their order, behind the custom size if both bounds
  of its range are announced (`OffersCustom`).  The keywords are gone through once, and a bound is
  found exactly if some keyword announces it, whatever stands around it
  (`isSome_foldl_noteBound`).

  The place of the current size is looked up among the sizes, before the custom size is put in
  front of them.  So a listed size is selected at its first place, one further behind with the
  custom size there; an unlisted one leaves the first option selected, which is the custom size or
  the first of the sizes (`selectedAt_of_listed`, `selectedAt_of_unlisted`).

  An editor is missing only if a number on it is too large (`exists_ofSource_of_showable`).  The
  bound that `Showable` puts on names is on their length in characters: a size has lengths below a
  power of ten for each character of its name (`lookup_lt`), and the range of floating-point
  values ends far above.

  Main statement: `one_size_selected`.
-/
import PrinterConsole.Proofs.Control.MediaPicks
import PrinterConsole.Proofs.Driver.MediaBounds
import PrinterConsole.Proofs.Number.Significant

namespace PrinterConsole

open PrinterConsole.Number PrinterConsole.Text

/-! ## The bounds of custom sizes

  The search for the two bounds stops with the first pair, and there is a pair exactly if both kinds
  of keyword are there (`OffersCustom`). -/

/-- A keyword that announces the least custom size. -/
def IsLeastKeyword (keyword : String) : Prop :=
  isCustomKeyword keyword = true ∧ contains "_min_" keyword = true

/-- A keyword that announces the greatest custom size; one with both marks announces the least. -/
def IsMostKeyword (keyword : String) : Prop :=
  isCustomKeyword keyword = true ∧ contains "_max_" keyword = true ∧
    contains "_min_" keyword = false

/-- Among the `keywords` both bounds of custom sizes are announced. -/
def OffersCustom (keywords : List String) : Prop :=
  (∃ k ∈ keywords, IsLeastKeyword k) ∧ ∃ k ∈ keywords, IsMostKeyword k

instance (keyword : String) : Decidable (IsLeastKeyword keyword) :=
  inferInstanceAs (Decidable (_ ∧ _))

instance (keyword : String) : Decidable (IsMostKeyword keyword) :=
  inferInstanceAs (Decidable (_ ∧ _ ∧ _))

instance (keywords : List String) : Decidable (OffersCustom keywords) :=
  inferInstanceAs (Decidable ((∃ k ∈ keywords, _) ∧ ∃ k ∈ keywords, _))

/-- What one keyword does: it changes nothing if both bounds are found or if it announces none, and
    otherwise it becomes the bound that it announces.  `noteBound` is unfolded here and nowhere
    else. -/
theorem noteBound_cases (found : Option String × Option String) (keyword : String) :
    noteBound found keyword = found ∧
        (found.1.isSome = true ∧ found.2.isSome = true ∨
          ¬ IsLeastKeyword keyword ∧ ¬ IsMostKeyword keyword) ∨
      noteBound found keyword = (some keyword, found.2) ∧
        IsLeastKeyword keyword ∧ ¬ IsMostKeyword keyword ∨
      noteBound found keyword = (found.1, some keyword) ∧
        ¬ IsLeastKeyword keyword ∧ IsMostKeyword keyword := by
  unfold noteBound IsLeastKeyword IsMostKeyword
  by_cases hboth : (found.1.isSome && found.2.isSome) = true
  · rw [if_pos hboth]
    rw [Bool.and_eq_true] at hboth
    exact .inl ⟨rfl, .inl hboth⟩
  · rw [if_neg hboth]
    cases isCustomKeyword keyword with
    | false => exact .inl ⟨rfl, .inr ⟨nofun, nofun⟩⟩
    | true =>
      cases contains "_min_" keyword with
      | true => exact .inr (.inl ⟨rfl, ⟨rfl, rfl⟩, nofun⟩)
      | false =>
        cases contains "_max_" keyword with
        | true => exact .inr (.inr ⟨rfl, nofun, rfl, rfl, rfl⟩)
        | false => exact .inl ⟨rfl, .inr ⟨nofun, nofun⟩⟩

/-- In `noteBound` one keyword adds the bound that it announces, and takes none away, whether it
    replaces one or not. -/
theorem isSome_noteBound (found : Option String × Option String) (keyword : String) :
    ((noteBound found keyword).1.isSome = true ↔
        found.1.isSome = true ∨ IsLeastKeyword keyword) ∧
      ((noteBound found keyword).2.isSome = true ↔
        found.2.isSome = true ∨ IsMostKeyword keyword) := by
  rcases noteBound_cases found keyword with
    ⟨heq, ⟨hleast, hmost⟩ | ⟨hleast, hmost⟩⟩ | ⟨heq, hleast, hmost⟩ | ⟨heq, hleast, hmost⟩ <;> rw [heq]
  · exact ⟨iff_of_true hleast (.inl hleast), iff_of_true hmost (.inl hmost)⟩
  · exact ⟨(or_iff_left hleast).symm, (or_iff_left hmost).symm⟩
  · exact ⟨iff_of_true rfl (.inr hleast), (or_iff_left hmost).symm⟩
  · exact ⟨(or_iff_left hleast).symm, iff_of_true rfl (.inr hmost)⟩

/-- **A bound is found exactly if a keyword announces it**: the step `isSome_noteBound` along the
    list. -/
theorem isSome_foldl_noteBound (keywords : List String) (found : Option String × Option String) :
    ((keywords.foldl noteBound found).1.isSome = true ↔
        found.1.isSome = true ∨ ∃ k ∈ keywords, IsLeastKeyword k) ∧
      ((keywords.foldl noteBound found).2.isSome = true ↔
        found.2.isSome = true ∨ ∃ k ∈ keywords, IsMostKeyword k) := by
  induction keywords generalizing found with
  | nil => simp
  | cons k rest ih =>
    obtain ⟨hleast, hmost⟩ := ih (noteBound found k)
    obtain ⟨hleast', hmost'⟩ := isSome_noteBound found k
    rw [List.foldl_cons, hleast, hmost, hleast', hmost', List.exists_mem_cons_iff,
      List.exists_mem_cons_iff, or_assoc, or_assoc]
    exact ⟨Iff.rfl, Iff.rfl⟩

namespace MediaChooser

/-- There are bounds exactly if both kinds of bound are among the keywords (`OffersCustom`). -/
theorem isSome_boundsOf (keywords : List String) :
    (boundsOf keywords).isSome = true ↔ OffersCustom keywords := by
  have hfound : (boundsOf keywords).isSome = true ↔
      (findCustomRange keywords).1.isSome = true ∧ (findCustomRange keywords).2.isSome = true := by
    unfold boundsOf
    rcases findCustomRange keywords with ⟨_ | least, _ | most⟩ <;> simp
  obtain ⟨hleast, hmost⟩ := isSome_foldl_noteBound keywords (none, none)
  rw [hfound, findCustomRange, hleast, hmost]
  simp [OffersCustom]

/-! ## The selected option

  Options are marked by their place, so at most one is (`selected_zipIdx_iff`).  None is marked only
  if there are no options at all, since a size that is not listed marks the first. -/

/-- The option at the place `k` is selected; beyond the end none is. -/
def SelectedAt (choices : List Choice) (k : Nat) : Prop :=
  choices[k]?.map (·.selected) = some true

/-- The place of a listed `size` is its first one, behind all that stands before it. -/
theorem placeOf_append {before : List String} {size : String} (h : size ∉ before)
    (after : List String) :
    placeOf (before ++ size :: after) (.string size) = some before.length := by
  have hlength : before.length < (before ++ size :: after).length := by
    rw [List.length_append, List.length_cons]
    omega
  refine List.findIdx?_eq_some_iff_getElem.2 ⟨hlength, ?_, ?_⟩
  · rw [List.getElem_append_right le_rfl]
    simp [Json.same_string_iff]
  · intro j hj
    rw [List.getElem_append_left hj, Json.string_same, Json.same_string_iff]
    intro heq
    cases heq
    exact h (List.getElem_mem hj)

/-- A size has no place exactly if it is not listed; keywords are texts, on which `Json.same` is
    equality. -/
theorem placeOf_eq_none_iff {sizes : List String} {current : Json} :
    placeOf sizes current = none ↔ ∀ s ∈ sizes, current ≠ .string s := by
  rw [placeOf, List.findIdx?_eq_none_iff]
  refine forall₂_congr fun s _ => ?_
  rw [← Bool.not_eq_true, Json.string_same, Json.same_string_iff]

variable {sizes : List String} {current : Json} {hasCustom : Bool} {choices : List Choice}

/-- Of entries that are marked by their place, one at most is marked, and none if the place is
    beyond the end. -/
theorem selected_zipIdx_iff (sizes : List String) (place : Option Nat) (k : Nat) :
    (((sizes.zipIdx.map fun m => (Json.string m.1, place == some m.2))[k]?).map (·.2)) = some true ↔
      place = some k ∧ k < sizes.length := by
  rw [List.getElem?_map, List.getElem?_zipIdx]
  by_cases hk : k < sizes.length
  · rw [List.getElem?_eq_getElem hk]
    simp [hk]
  · rw [List.getElem?_eq_none (by omega)]
    simp [hk]

/-- Whether an option is selected can be read off `pairs_sizeChoices`, the options without their
    labels. -/
theorem selectedAt_iff_pairs {k : Nat} :
    SelectedAt choices k ↔
      (choices.map fun c => (c.value, c.selected))[k]?.map (·.2) = some true := by
  rw [SelectedAt, List.getElem?_map, Option.map_map]
  rfl

/-- **A listed size is selected at its first place**, and nothing else: its place among the sizes
    (`placeOf_append`) is found before the custom size is put in front of them. -/
theorem selectedAt_of_listed {before after : List String} {size : String}
    (h : sizeChoices (before ++ size :: after) (.string size) hasCustom = .ok choices)
    (hbefore : size ∉ before) (k : Nat) :
    SelectedAt choices k ↔ k = (if hasCustom then 1 else 0) + before.length := by
  have hlength : before.length < (before ++ size :: after).length := by
    rw [List.length_append, List.length_cons]
    omega
  rw [selectedAt_iff_pairs, pairs_sizeChoices h, placeOf_append hbefore]
  cases hasCustom with
  | true =>
    rw [if_pos rfl, if_pos rfl, List.singleton_append]
    cases k with
    | zero =>
      refine iff_of_false nofun ?_
      rw [if_pos rfl]
      omega
    | succ k =>
      rw [List.getElem?_cons_succ, if_pos rfl, selected_zipIdx_iff, Option.some.injEq]
      omega
  | false =>
    rw [if_neg Bool.false_ne_true, if_neg Bool.false_ne_true, List.nil_append,
      if_neg Bool.false_ne_true, Option.some_or, selected_zipIdx_iff, Option.some.injEq]
    omega

/-- **If the `current` size is not listed, the first option is selected**, and nothing else. -/
theorem selectedAt_of_unlisted (h : sizeChoices sizes current hasCustom = .ok choices)
    (hnone : ∀ s ∈ sizes, current ≠ .string s) (k : Nat) :
    SelectedAt choices k ↔ k = 0 ∧ choices ≠ [] := by
  have hpairs := pairs_sizeChoices h
  rw [placeOf_eq_none_iff.2 hnone] at hpairs
  have hlength := congrArg List.length hpairs
  rw [List.length_map, List.length_append, List.length_map, List.length_zipIdx] at hlength
  rw [← List.length_pos_iff, selectedAt_iff_pairs, hpairs, hlength]
  cases hasCustom with
  | true =>
    rw [if_pos rfl, List.singleton_append]
    cases k with
    | zero =>
      refine iff_of_true rfl ⟨rfl, ?_⟩
      rw [List.length_singleton]
      omega
    | succ k =>
      rw [List.getElem?_cons_succ, if_pos rfl, selected_zipIdx_iff]
      exact iff_of_false nofun nofun
  | false =>
    rw [if_neg Bool.false_ne_true, List.nil_append, if_neg Bool.false_ne_true, Option.none_or,
      selected_zipIdx_iff, Option.some.injEq, List.length_nil]
    omega

/-- **One option is selected**, if there are options: a size is listed or it is not, and
    `selectedAt_of_listed` or `selectedAt_of_unlisted` gives the place. -/
theorem existsUnique_selectedAt (h : sizeChoices sizes current hasCustom = .ok choices)
    (hne : choices ≠ []) : ∃! k, SelectedAt choices k := by
  by_cases hlisted : ∃ s ∈ sizes, current = .string s
  · obtain ⟨size, hsize, rfl⟩ := hlisted
    obtain ⟨before, after, rfl, hbefore⟩ := List.eq_append_cons_of_mem hsize
    have hselected := selectedAt_of_listed h hbefore
    exact ⟨_, (hselected _).2 rfl, fun k hk => (hselected k).1 hk⟩
  · push Not at hlisted
    have hselected := selectedAt_of_unlisted h hlisted
    exact ⟨0, (hselected 0).2 ⟨rfl, hne⟩, fun k hk => ((hselected k).1 hk).1⟩

/-- The values of the options: `customChoice`, if it is there, and then the sizes in their order. -/
theorem values_sizeChoices (h : sizeChoices sizes current hasCustom = .ok choices) :
    choices.map (·.value) =
      (if hasCustom then [.string customChoice] else []) ++ sizes.map Json.string := by
  have hvalues : choices.map (·.value) =
      (choices.map fun c => (c.value, c.selected)).map (·.1) := by
    rw [List.map_map]
    rfl
  have hlisted : ∀ place : Option Nat,
      (sizes.zipIdx.map fun m => (Json.string m.1, place == some m.2)).map (·.1) =
        sizes.map Json.string := by
    intro place
    rw [List.map_map]
    exact (List.map_map (f := Prod.fst) (g := Json.string)).symm.trans
      (congrArg (List.map Json.string) (List.zipIdx_map_fst 0 sizes))
  rw [hvalues, pairs_sizeChoices h, List.map_append, hlisted]
  cases hasCustom <;> rfl

/-! ## Editors whose numbers are not too large

  Everything that an editor converts to inches has at most 250 digits here, far from where a float
  overflows.  `Showable` says that of the names of the sizes and of the offsets. -/

/-- What an editor shows of the options `o` besides sizes are texts and offsets, and no number on it
    is too large. -/
structure Showable (o : DriverOptions) (keywords : List String) (media : LoadedMedia) : Prop where
  types : ∀ t ∈ o.types, ∃ text, t = Json.string text
  names : ∀ k ∈ keywords, k.length ≤ 250
  leftOffset : ∃ low high : Int, o.leftOffsetSupported = [.int low, .int high] ∧
    ∀ n ∈ [low, high, media.leftOffset], n.natAbs ≤ 10 ^ 250
  topOffset : ∃ low high : Int, o.topOffsetSupported = [.int low, .int high] ∧
    ∀ n ∈ [low, high, media.topOffset], n.natAbs ≤ 10 ^ 250

/-- A quotient of a number of at most 254 digits is in the range of values. -/
theorem exists_quotient? {n : Int} (hn : n.natAbs ≤ 10 ^ 254) {d : Nat} (hd : 0 < d) :
    ∃ x, Binary64.quotient? n d = some x := by
  refine Option.isSome_iff_exists.1 ((Binary64.isSome_quotient?_iff n hd).2 ?_)
  have hcast : (n.natAbs : ℚ) ≤ 10 ^ (254 : Int) := by exact_mod_cast hn
  have hdiv : (n.natAbs : ℚ) / d ≤ n.natAbs :=
    div_le_self (Nat.cast_nonneg _) (by exact_mod_cast hd)
  have hpow : (10 : ℚ) ^ (254 : Int) ≤ 10 ^ (308 : Int) :=
    zpow_le_zpow_right₀ (by norm_num) (by norm_num)
  exact (hdiv.trans (hcast.trans hpow)).trans_lt Binary64.tooLarge_bounds.1

theorem exists_hundredthsToInches {n : Int} (hn : n.natAbs ≤ 10 ^ 254) :
    ∃ x, hundredthsToInches n = .ok x := by
  obtain ⟨x, hx⟩ := exists_quotient? hn (d := hundredthsPerInch) (by decide)
  exact ⟨x, by rw [hundredthsToInches, hx]⟩

/-- The lengths of a size with a name of at most 250 characters, by `lookup_lt`. -/
theorem lookup_lt_of_length {name : String} {s : MediaSize} (h : MediaSize.lookup name = some s)
    (hname : name.length ≤ 250) : s.width < 10 ^ 254 ∧ s.length < 10 ^ 254 := by
  obtain ⟨hw, hl⟩ := MediaSize.lookup_lt h
  have hpow : 10 ^ (name.length + 4) ≤ 10 ^ 254 := Nat.pow_le_pow_right (by decide) (by omega)
  exact ⟨lt_of_lt_of_le hw hpow, lt_of_lt_of_le hl hpow⟩

/-- A size below `10 ^ 254` has a label: its inches are finite. -/
theorem exists_dimensions {s : MediaSize} (hw : s.width < 10 ^ 254) (hl : s.length < 10 ^ 254) :
    ∃ label, Label.dimensions s = .ok label := by
  have hwhole : ∀ n : Nat, n < 10 ^ 254 → Label.wholeText (n / hundredthsPerMillimetre) =
      .ok (natText (n / hundredthsPerMillimetre)) := by
    intro n hn
    refine if_pos (isWritable_of_lt_pow (k := 254) ?_ (by decide))
    exact lt_of_le_of_lt (Nat.div_le_self n _) hn
  obtain ⟨w, hw'⟩ := exists_hundredthsToInches (n := s.width) hw.le
  obtain ⟨l, hl'⟩ := exists_hundredthsToInches (n := s.length) hl.le
  unfold Label.dimensions
  split
  · rw [hwhole _ hw, hwhole _ hl]
    exact ⟨_, rfl⟩
  · rw [Label.inchText, Label.inchText, hw', hl']
    exact ⟨_, rfl⟩

/-- A `keyword` of at most 250 characters has a label, whatever it is. -/
theorem exists_label {keyword : String} (h : keyword.length ≤ 250) :
    ∃ label, Label.ofKeyword "media" keyword = .ok label := by
  unfold Label.ofKeyword
  rw [if_pos (by decide)]
  split
  · exact ⟨_, rfl⟩
  · unfold Label.ofSize
    split
    · exact ⟨_, rfl⟩
    · rename_i s hs
      obtain ⟨hw, hl⟩ := lookup_lt_of_length hs h
      split
      · exact ⟨_, rfl⟩
      · exact exists_dimensions hw hl

/-- Names of at most 250 characters name sizes below the bound of `exists_dimensions`. -/
theorem exists_sizeChoices_of_length (h : ∀ s ∈ sizes, s.length ≤ 250) (current : Json)
    (hasCustom : Bool) : ∃ choices, sizeChoices sizes current hasCustom = .ok choices := by
  have hlisted : ∀ place : Option Nat,
      ∃ listed, sizes.zipIdx.mapM (sizeChoice place) = .ok listed := by
    intro place
    refine exists_mapM_ok_iff.2 fun m hm => ?_
    obtain ⟨label, hlabel⟩ := exists_label (h m.1 (List.fst_mem_of_mem_zipIdx hm))
    exact ⟨_, bind_eq_ok.2 ⟨label, hlabel, rfl⟩⟩
  obtain ⟨listed, hlisted⟩ := hlisted _
  rw [sizeChoices_eq]
  exact ⟨_, bind_eq_ok.2 ⟨listed, hlisted, rfl⟩⟩

/-- The bounds that are found are among the keywords, or were `found` before. -/
theorem mem_of_foldl_noteBound (keywords : List String) (found : Option String × Option String) :
    (∀ k ∈ (keywords.foldl noteBound found).1, k ∈ found.1 ∨ k ∈ keywords) ∧
      ∀ k ∈ (keywords.foldl noteBound found).2, k ∈ found.2 ∨ k ∈ keywords := by
  induction keywords generalizing found with
  | nil => exact ⟨fun k hk => .inl hk, fun k hk => .inl hk⟩
  | cons keyword rest ih =>
    have hstep : (∀ k ∈ (noteBound found keyword).1, k ∈ found.1 ∨ k = keyword) ∧
        ∀ k ∈ (noteBound found keyword).2, k ∈ found.2 ∨ k = keyword := by
      rcases noteBound_cases found keyword with ⟨heq, -⟩ | ⟨heq, -⟩ | ⟨heq, -⟩ <;> rw [heq]
      · exact ⟨fun k hk => .inl hk, fun k hk => .inl hk⟩
      · exact ⟨fun k hk => .inr (Option.some.inj hk).symm, fun k hk => .inl hk⟩
      · exact ⟨fun k hk => .inl hk, fun k hk => .inr (Option.some.inj hk).symm⟩
    obtain ⟨hleast, hmost⟩ := ih (noteBound found keyword)
    refine ⟨fun k hk => ?_, fun k hk => ?_⟩
    · rcases hleast k hk with hfound | hrest
      · exact (hstep.1 k hfound).imp_right fun h => List.mem_cons.2 (.inl h)
      · exact .inr (List.mem_cons_of_mem _ hrest)
    · rcases hmost k hk with hfound | hrest
      · exact (hstep.2 k hfound).imp_right fun h => List.mem_cons.2 (.inl h)
      · exact .inr (List.mem_cons_of_mem _ hrest)

/-- The bounds are two of the keywords, being what `findCustomRange` found among them. -/
theorem mem_of_boundsOf {keywords : List String} {b : String × String}
    (h : boundsOf keywords = some b) : b.1 ∈ keywords ∧ b.2 ∈ keywords := by
  obtain ⟨hleast, hmost⟩ := mem_of_foldl_noteBound keywords (none, none)
  unfold boundsOf at h
  split at h
  · rename_i least most hrange
    cases h
    rw [findCustomRange] at hrange
    rw [hrange] at hleast hmost
    exact ⟨(hleast least rfl).resolve_left nofun, (hmost most rfl).resolve_left nofun⟩
  · cases h

/-- The bounds of a range are not too large, whether they are read or replaced by those in
    reserve. -/
theorem ofKeywords_le {least most : String} (hleast : least.length ≤ 250)
    (hmost : most.length ≤ 250) :
    (CustomRange.ofKeywords least most).minWidth ≤ 10 ^ 254 ∧
      (CustomRange.ofKeywords least most).minLength ≤ 10 ^ 254 ∧
      (CustomRange.ofKeywords least most).maxWidth ≤ 10 ^ 254 ∧
      (CustomRange.ofKeywords least most).maxLength ≤ 10 ^ 254 := by
  have hlow : (CustomRange.ofKeywords least most).minWidth ≤ 10 ^ 254 ∧
      (CustomRange.ofKeywords least most).minLength ≤ 10 ^ 254 := by
    unfold CustomRange.ofKeywords
    dsimp only
    cases hs : MediaSize.lookup least with
    | none => exact ⟨by decide, by decide⟩
    | some s =>
      obtain ⟨hw, hl⟩ := lookup_lt_of_length hs hleast
      exact ⟨hw.le, hl.le⟩
  have hhigh : (CustomRange.ofKeywords least most).maxWidth ≤ 10 ^ 254 ∧
      (CustomRange.ofKeywords least most).maxLength ≤ 10 ^ 254 := by
    unfold CustomRange.ofKeywords
    dsimp only
    cases hs : MediaSize.lookup most with
    | none => exact ⟨by decide, by decide⟩
    | some s =>
      obtain ⟨hw, hl⟩ := lookup_lt_of_length hs hmost
      exact ⟨hw.le, hl.le⟩
  exact ⟨hlow.1, hlow.2, hhigh.1, hhigh.2⟩

/-- A length `x` is shown between bounds that are not too large: clamped, it is at most the greater
    bound. -/
theorem exists_lengthInput_of_le {low high : Nat} (hlow : low ≤ 10 ^ 254) (hhigh : high ≤ 10 ^ 254)
    (name : String) (x : Int) :
    ∃ input, lengthInput name low high (CustomRange.clampLength low high x) = .ok input := by
  have hclamped := clampLength_bounds low high x
  obtain ⟨a, ha⟩ := exists_hundredthsToInches (n := low) hlow
  obtain ⟨b, hb⟩ := exists_hundredthsToInches (n := high) hhigh
  obtain ⟨c, hc⟩ := exists_hundredthsToInches (n := CustomRange.clampLength low high x) (by omega)
  unfold lengthInput inches
  rw [ha, hb, hc]
  exact ⟨_, rfl⟩

theorem exists_customInputs_of_length {least most : String} (hleast : least.length ≤ 250)
    (hmost : most.length ≤ 250) (name : String) (media : LoadedMedia) :
    ∃ inputs, customInputs name least most media = .ok inputs := by
  obtain ⟨hlow, hlow', hhigh, hhigh'⟩ := ofKeywords_le hleast hmost
  obtain ⟨w, hw⟩ := exists_lengthInput_of_le hlow hhigh (name ++ "-custom-width") media.width
  obtain ⟨l, hl⟩ := exists_lengthInput_of_le hlow' hhigh' (name ++ "-custom-length") media.length
  exact ⟨_, bind_eq_ok.2 ⟨w, hw, bind_eq_ok.2 ⟨l, hl, rfl⟩⟩⟩

/-- An offset and its bounds of at most 250 digits become lengths that are no overflow. -/
theorem exists_offsetInput_of_le {low high value : Int}
    (h : ∀ n ∈ [low, high, value], n.natAbs ≤ 10 ^ 250) (name : String) :
    ∃ input, offsetInput name [.int low, .int high] value = .ok input := by
  have hhundredth : ∀ n ∈ [low, high, value], ∃ x, hundredth (.int n) = .ok x := by
    intro n hn
    have hpow : 10 ^ 250 ≤ 10 ^ 254 := Nat.pow_le_pow_right (by decide) (by decide)
    obtain ⟨x, hx⟩ := exists_quotient? ((h n hn).trans hpow) Nat.one_pos
    have hofInt : Binary64.ofInt? n = some x := hx
    exact ⟨x.divNat 100, by rw [hundredth, hundredth.whole, hofInt]⟩
  obtain ⟨a, ha⟩ := hhundredth low (by simp)
  obtain ⟨b, hb⟩ := hhundredth high (by simp)
  obtain ⟨c, hc⟩ := hhundredth value (by simp)
  unfold offsetInput
  dsimp only
  rw [ha, hb, hc]
  split <;> exact ⟨_, rfl⟩

theorem mapM_sizeKeyword {o : DriverOptions} {keywords : List String}
    (h : o.media = keywords.map Json.string) : o.media.mapM sizeKeyword = .ok keywords := by
  have hread : ∀ s, sizeKeyword (.string s) = .ok s := fun _ => rfl
  rw [h]
  exact mapM_of_forall_ok hread keywords

/-- **An editor can be built if no number on it is too large** (`Showable`): part by part, by the
    lemmas of this section. -/
theorem exists_ofSource_of_showable {o : DriverOptions} {index : Int} {keywords : List String}
    {source : String} {media : LoadedMedia} (hkeywords : o.media = keywords.map Json.string)
    (hsource : itemAt o.sources index = .ok (.string source))
    (hmedia : itemAt o.mediaReady index = .ok media) (hshow : Showable o keywords media) :
    ∃ c, ofSource o index = .ok c := by
  -- only labels of sizes can fail, and they are held in check by the length of the names
  have htitle : ∀ (attr text : String), (attr == "media") = false →
      ∃ label, Label.ofJson attr (.string text) = .ok label := by
    intro attr text hattr
    refine ⟨_, if_neg ?_⟩
    rw [hattr]
    exact Bool.false_ne_true
  obtain ⟨title, htitle'⟩ := htitle "media-source" source (by decide)
  have htypes : ∃ types, typeChoices o media = .ok types := by
    refine exists_mapM_ok_iff.2 fun t ht => ?_
    obtain ⟨text, rfl⟩ := hshow.types t ht
    obtain ⟨label, hlabel⟩ := htitle "media-type" text (by decide)
    exact ⟨_, bind_eq_ok.2 ⟨label, hlabel, rfl⟩⟩
  obtain ⟨types, htypes⟩ := htypes
  have hinputs : ∃ inputs, (boundsOf keywords).mapM
      (fun b => customInputs ("ready" ++ intText index) b.1 b.2 media) = .ok inputs := by
    cases hbounds : boundsOf keywords with
    | none => exact ⟨none, rfl⟩
    | some b =>
      obtain ⟨hleast, hmost⟩ := mem_of_boundsOf hbounds
      obtain ⟨pair, hpair⟩ := exists_customInputs_of_length (hshow.names _ hleast)
        (hshow.names _ hmost) ("ready" ++ intText index) media
      exact ⟨some pair, bind_eq_ok.2 ⟨pair, hpair, rfl⟩⟩
  obtain ⟨inputs, hinputs⟩ := hinputs
  have hsizes : ∀ s ∈ standardSizes keywords, s.length ≤ 250 :=
    fun s hs => hshow.names s (List.mem_filter.1 hs).1
  obtain ⟨sizes, hsizes⟩ :=
    exists_sizeChoices_of_length hsizes media.sizeName (boundsOf keywords).isSome
  obtain ⟨low, high, hleft, hrange⟩ := hshow.leftOffset
  obtain ⟨left, hleft'⟩ :=
    exists_offsetInput_of_le hrange ("ready" ++ intText index ++ "-left-offset")
  obtain ⟨low', high', htop, hrange'⟩ := hshow.topOffset
  obtain ⟨top, htop'⟩ :=
    exists_offsetInput_of_le hrange' ("ready" ++ intText index ++ "-top-offset")
  rw [← hleft] at hleft'
  rw [← htop] at htop'
  exact ⟨_, ofSource_eq_ok_iff.2 ⟨.string source, media, keywords, sizes, inputs, types, title,
    left, top, hsource, hmedia, mapM_sizeKeyword hkeywords, hsizes, hinputs, htypes, htitle',
    hleft', htop', rfl⟩⟩

/-- The parts of an editor that depend on the sizes: its options, whether a custom size is there,
    and whether it is shown. -/
theorem sizes_of_ofSource {o : DriverOptions} {index : Int} {keywords : List String}
    {media : LoadedMedia} {c : MediaChooser} (hkeywords : o.media = keywords.map Json.string)
    (hmedia : itemAt o.mediaReady index = .ok media) (hc : ofSource o index = .ok c) :
    sizeChoices (standardSizes keywords) media.sizeName (boundsOf keywords).isSome = .ok c.sizes ∧
      c.hasCustom = (boundsOf keywords).isSome ∧
      (c.showCustom = true ↔ (boundsOf keywords).isSome = true ∧ SelectedAt c.sizes 0) := by
  obtain ⟨_, media', keywords', sizes, inputs, types, title, left, top, -, hmedia', hkeywords',
    hsizes, hinputs, -, -, -, -, rfl⟩ := ofSource_eq_ok_iff.1 hc
  rw [mapM_sizeKeyword hkeywords] at hkeywords'
  cases hkeywords'
  rw [hmedia] at hmedia'
  cases hmedia'
  refine ⟨hsizes, ?_, ?_⟩
  · show (inputs.map (·.1)).isSome = _
    cases hbounds : boundsOf keywords with
    | none =>
      rw [hbounds] at hinputs
      cases hinputs
      rfl
    | some b =>
      rw [hbounds] at hinputs
      obtain ⟨pair, -, hpair⟩ := bind_eq_ok.1 hinputs
      cases hpair
      rfl
  · show ((boundsOf keywords).isSome && (sizes.head?.map (·.selected)).getD false) = true ↔
      _ ∧ sizes[0]?.map (·.selected) = some true
    rw [Bool.and_eq_true, List.head?_eq_getElem?]
    refine and_congr_right fun _ => ?_
    cases sizes[0]? with
    | none => exact iff_of_false nofun nofun
    | some choice => exact (Option.some.injEq _ _).to_iff.symm

/-- **One size is selected in every editor**, for any options whose sizes are texts and any loaded
    media.  The options are the custom size, exactly if both bounds of it are announced, and the
    other keywords in their order.  If there are options, exactly one is selected (`SelectedAt`):
    that of the loaded size at its first place, and the first option if the loaded size is not
    listed.  The custom size is shown exactly if it is there and selected.  And an editor is there,
    if no number on it is too large (`Showable`). -/
theorem one_size_selected {o : DriverOptions} {index : Int} {keywords : List String}
    {media : LoadedMedia} (hkeywords : o.media = keywords.map Json.string)
    (hmedia : itemAt o.mediaReady index = .ok media) :
    (∀ source, itemAt o.sources index = .ok (.string source) → Showable o keywords media →
      ∃ c, ofSource o index = .ok c) ∧
    ∀ c, ofSource o index = .ok c →
      (c.sizes.map (·.value) =
        (if OffersCustom keywords then [.string "custom"] else []) ++
          (keywords.filter fun k => !isCustomKeyword k).map Json.string) ∧
      (c.hasCustom = true ↔ OffersCustom keywords) ∧
      (c.sizes ≠ [] → ∃! k, SelectedAt c.sizes k) ∧
      (∀ before size after,
        (keywords.filter fun k => !isCustomKeyword k) = before ++ size :: after →
        size ∉ before → media.sizeName = .string size →
          SelectedAt c.sizes ((if OffersCustom keywords then 1 else 0) + before.length)) ∧
      ((∀ k ∈ keywords, isCustomKeyword k = false → media.sizeName ≠ .string k) → c.sizes ≠ [] →
        SelectedAt c.sizes 0) ∧
      (c.showCustom = true ↔ OffersCustom keywords ∧ SelectedAt c.sizes 0) := by
  refine ⟨fun source hsource hshow => exists_ofSource_of_showable hkeywords hsource hmedia hshow,
    fun c hc => ?_⟩
  obtain ⟨hsizes, hcustom, hshown⟩ := sizes_of_ofSource hkeywords hmedia hc
  have hbounds := isSome_boundsOf keywords
  have hif : ∀ {α : Type} (x y : α), (if (boundsOf keywords).isSome = true then x else y) =
      if OffersCustom keywords then x else y := by
    intro α x y
    simp only [hbounds]
  refine ⟨?_, ?_, existsUnique_selectedAt hsizes, ?_, ?_, ?_⟩
  · rw [values_sizeChoices hsizes, hif]
    rfl
  · rw [hcustom, hbounds]
  · intro before size after hlisted hbefore hloaded
    rw [standardSizes, hlisted, hloaded] at hsizes
    exact (selectedAt_of_listed hsizes hbefore _).2 (by rw [hif])
  · intro hunlisted hne
    refine (selectedAt_of_unlisted hsizes ?_ 0).2 ⟨rfl, hne⟩
    intro s hs
    obtain ⟨hmem, hstandard⟩ := List.mem_filter.1 hs
    exact hunlisted s hmem (by simpa using hstandard)
  · rw [hshown, hbounds]

/-- The size keywords of the label printer, as texts. -/
def labelPrinterKeywords : List String :=
  ["na_index-4x6_4x6in", "na_5x7_5x7in", "oe_photo-l_3.5x5in", "om_small-photo_100x150mm",
    "roll_max_4.25x22in", "roll_min_0.75x0.25in"]

/-- The label printer shows any `media` without offsets. -/
theorem showable_labelPrinter {media : LoadedMedia} (hleft : media.leftOffset = 0)
    (htop : media.topOffset = 0) : Showable .labelPrinter labelPrinterKeywords media := by
  refine ⟨?_, by decide, ⟨0, 0, rfl, ?_⟩, ⟨-1500, 1500, rfl, ?_⟩⟩
  · simp [DriverOptions.labelPrinter]
  · rw [hleft]
    decide
  · rw [htop]
    decide

/-- The label printer announces both bounds of a custom size.  The size of its first roll is listed,
    and stands behind the custom size; its second roll is not configured, and the custom size is
    shown. -/
theorem one_size_selected_of_rolls :
    (∃ c, ofSource .labelPrinter 0 = .ok c ∧ SelectedAt c.sizes 1 ∧ c.hasCustom = true) ∧
      ∃ c, ofSource .labelPrinter 1 = .ok c ∧ c.showCustom = true := by
  have hoffers : OffersCustom labelPrinterKeywords := by decide
  have hlisted : (labelPrinterKeywords.filter fun k => !isCustomKeyword k) =
      [] ++ "na_index-4x6_4x6in" ::
        ["na_5x7_5x7in", "oe_photo-l_3.5x5in", "om_small-photo_100x150mm"] := by decide
  obtain ⟨hfirst, hfirst'⟩ :=
    @one_size_selected .labelPrinter 0 labelPrinterKeywords DriverOptions.firstRoll rfl rfl
  obtain ⟨hsecond, hsecond'⟩ :=
    @one_size_selected .labelPrinter 1 labelPrinterKeywords .empty rfl rfl
  obtain ⟨c, hc⟩ := hfirst "main-roll" rfl (showable_labelPrinter rfl rfl)
  obtain ⟨d, hd⟩ := hsecond "alternate-roll" rfl (showable_labelPrinter rfl rfl)
  obtain ⟨-, hcustom, -, hselected, -, -⟩ := hfirst' c hc
  obtain ⟨hvalues, -, -, -, hunlisted, hshown⟩ := hsecond' d hd
  refine ⟨⟨c, hc, ?_, hcustom.2 hoffers⟩, d, hd, hshown.2 ⟨hoffers, hunlisted ?_ ?_⟩⟩
  · have hone := hselected _ _ _ hlisted List.not_mem_nil rfl
    rwa [if_pos hoffers] at hone
  · have hempty : ∀ k ∈ labelPrinterKeywords, k ≠ "" := by decide
    intro k hk _ heq
    exact hempty k hk (Json.string.inj heq).symm
  · intro hnil
    rw [hnil, if_pos hoffers] at hvalues
    cases hvalues

end MediaChooser

end PrinterConsole
