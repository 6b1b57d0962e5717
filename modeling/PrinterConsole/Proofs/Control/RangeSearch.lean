/-
  Which keywords bound the custom sizes.

  The keywords are gone through once.  A bound that is found replaces an earlier one of its kind,
  and the search ends as soon as it has both.  So what is found are the last bounds of the
  shortest front of the list that has both kinds (`IsShortestOffer`), or of the whole list if it
  does not have both: up to there nothing stops the search (`findCustomRange_of_stops_late`), and
  behind it nothing is looked at (`foldl_noteBound_of_both`).

  `lastBounds` is the specification: it filters and takes the last, and knows nothing of a search.
  The fold agrees with it by an induction from the end of the list, because both are determined by
  what the last keyword adds (`lastBounds_concat`, `noteBound_of_missing`).

  Main statement: `findCustomRange_of_front`.
-/
import Mathlib.Data.List.Induction
import PrinterConsole.Proofs.Control.SizeSelection

namespace PrinterConsole

/-! ## The last bounds of a list

  Of each kind the last keyword so far is kept, which is the last of the list filtered by that
  kind. -/

/-- No keyword is of both kinds: `IsMostKeyword` leaves out one with both marks. -/
theorem IsLeastKeyword.not_isMostKeyword {keyword : String} (h : IsLeastKeyword keyword) :
    ¬ IsMostKeyword keyword := by
  rintro ⟨-, -, hmin⟩
  rw [h.2] at hmin
  cases hmin

/-- The last of the `keywords` of each kind, each looked for by itself. -/
def lastBounds (keywords : List String) : Option String × Option String :=
  ((keywords.filter (IsLeastKeyword ·)).getLast?, (keywords.filter (IsMostKeyword ·)).getLast?)

theorem getLast?_filter_eq_none_iff {p : String → Prop} [DecidablePred p] {keywords : List String} :
    (keywords.filter (p ·)).getLast? = none ↔ ∀ k ∈ keywords, ¬ p k := by
  rw [List.getLast?_eq_none_iff, List.filter_eq_nil_iff]
  simp only [decide_eq_true_eq]

theorem isSome_getLast?_filter_iff {p : String → Prop} [DecidablePred p] {keywords : List String} :
    (keywords.filter (p ·)).getLast?.isSome = true ↔ ∃ k ∈ keywords, p k := by
  rw [Option.isSome_iff_ne_none, ne_eq, getLast?_filter_eq_none_iff]
  push Not
  rfl

/-- A keyword behind a list is the last of its kind, and leaves the last of the other kind. -/
theorem getLast?_filter_concat (p : String → Prop) [DecidablePred p] (keywords : List String)
    (keyword : String) :
    ((keywords ++ [keyword]).filter (p ·)).getLast? =
      if p keyword then some keyword else (keywords.filter (p ·)).getLast? := by
  rw [List.filter_append]
  split
  · rename_i h
    rw [List.filter_cons_of_pos (by simpa using h), List.filter_nil, List.getLast?_concat]
  · rename_i h
    rw [List.filter_cons_of_neg (by simpa using h), List.filter_nil, List.append_nil]

/-- What one more keyword at the end does to `lastBounds`: it takes the place of the last of its
    kind. -/
theorem lastBounds_concat (keywords : List String) (keyword : String) :
    lastBounds (keywords ++ [keyword]) =
      (if IsLeastKeyword keyword then some keyword else (lastBounds keywords).1,
        if IsMostKeyword keyword then some keyword else (lastBounds keywords).2) :=
  Prod.ext (getLast?_filter_concat IsLeastKeyword keywords keyword)
    (getLast?_filter_concat IsMostKeyword keywords keyword)

/-- A list has last bounds of both kinds exactly if it has both kinds (`OffersCustom`). -/
theorem isSome_lastBounds_iff (keywords : List String) :
    ((lastBounds keywords).1.isSome = true ∧ (lastBounds keywords).2.isSome = true) ↔
      OffersCustom keywords :=
  and_congr isSome_getLast?_filter_iff isSome_getLast?_filter_iff

/-! ## The search

  The search goes on until both kinds are there and then keeps what it has.  So it does with a list
  what it does with its shortest front that offers both. -/

/-- While a bound is missing, a keyword becomes the bound that it announces: `noteBound` does then
    what `lastBounds_concat` says of the specification. -/
theorem noteBound_of_missing {found : Option String × Option String}
    (h : ¬ (found.1.isSome = true ∧ found.2.isSome = true)) (keyword : String) :
    noteBound found keyword =
      (if IsLeastKeyword keyword then some keyword else found.1,
        if IsMostKeyword keyword then some keyword else found.2) := by
  rcases noteBound_cases found keyword with
    ⟨heq, hboth | ⟨hleast, hmost⟩⟩ | ⟨heq, hleast, hmost⟩ | ⟨heq, hleast, hmost⟩
  · exact absurd hboth h
  · rw [heq, if_neg hleast, if_neg hmost]
  · rw [heq, if_pos hleast, if_neg hmost]
  · rw [heq, if_neg hleast, if_pos hmost]

/-- **With both bounds found, nothing further is looked at**: the fold of `noteBound` stays where it
    is. -/
theorem foldl_noteBound_of_both {found : Option String × Option String}
    (h : found.1.isSome = true ∧ found.2.isSome = true) (keywords : List String) :
    keywords.foldl noteBound found = found := by
  induction keywords with
  | nil => rfl
  | cons keyword rest ih =>
    have hstep : noteBound found keyword = found := by
      rw [noteBound, if_pos (Bool.and_eq_true _ _ ▸ h)]
    rw [List.foldl_cons, hstep, ih]

/-- **If no shorter front has both kinds**, the last bounds of the list are found.  By induction
    from the end: in front of the last keyword a bound is missing, so `noteBound` takes it in. -/
theorem findCustomRange_of_stops_late {keywords : List String}
    (h : ∀ front, front <+: keywords → front ≠ keywords → ¬ OffersCustom front) :
    findCustomRange keywords = lastBounds keywords := by
  induction keywords using List.reverseRecOn with
  | nil => rfl
  | append_singleton front keyword ih =>
    have hfront : ¬ OffersCustom front :=
      h front (List.prefix_append _ _) (by simp)
    have hshorter : ∀ front', front' <+: front → front' ≠ front → ¬ OffersCustom front' := by
      intro front' hbegin _
      refine h front' (hbegin.trans (List.prefix_append _ _)) ?_
      rintro rfl
      have hlength := hbegin.length_le
      rw [List.length_append, List.length_singleton] at hlength
      omega
    have hfound : front.foldl noteBound (none, none) = lastBounds front := ih hshorter
    have hmissing : ¬ ((lastBounds front).1.isSome = true ∧ (lastBounds front).2.isSome = true) :=
      fun hboth => hfront ((isSome_lastBounds_iff front).1 hboth)
    rw [findCustomRange, List.foldl_append, hfound, List.foldl_cons, List.foldl_nil,
      noteBound_of_missing hmissing, lastBounds_concat]

/-! ## The shortest front with both kinds

  There is such a front exactly if the list has both kinds, and only one.  Its last keyword is the
  one that completes the pair. -/

/-- A front of a list that has keywords of both kinds (`OffersCustom`). -/
def IsOfferingFront (front keywords : List String) : Prop := front <+: keywords ∧ OffersCustom front

def IsShortestOffer (front keywords : List String) : Prop :=
  IsOfferingFront front keywords ∧
    ∀ other, IsOfferingFront other keywords → front.length ≤ other.length

theorem OffersCustom.of_subset {front keywords : List String} (h : OffersCustom front)
    (hsub : front ⊆ keywords) : OffersCustom keywords := by
  obtain ⟨⟨least, hleast, hisLeast⟩, most, hmost, hisMost⟩ := h
  exact ⟨⟨least, hsub hleast, hisLeast⟩, most, hsub hmost, hisMost⟩

/-- A list that has both kinds has one shortest front with both (`IsShortestOffer`): fronts of one
    length are equal. -/
theorem existsUnique_shortestOffer {keywords : List String} (h : OffersCustom keywords) :
    ∃! front, IsShortestOffer front keywords := by
  classical
  have hexists : ∃ n, ∃ front, IsOfferingFront front keywords ∧ front.length = n :=
    ⟨_, keywords, ⟨List.prefix_rfl, h⟩, rfl⟩
  obtain ⟨front, hfront, hlength⟩ := Nat.find_spec hexists
  have hshortest : IsShortestOffer front keywords :=
    ⟨hfront, fun other hother => hlength.trans_le (Nat.find_min' hexists ⟨other, hother, rfl⟩)⟩
  refine ⟨front, hshortest, fun front' hfront' => ?_⟩
  have hle : front'.length ≤ front.length := hfront'.2 front hfront
  have hge : front.length ≤ front'.length := hshortest.2 front' hfront'.1
  exact (List.prefix_of_prefix_length_le hfront'.1.1 hfront.1 hle).eq_of_length (by omega)

/-- **What is found are the last bounds of the shortest front with both kinds** (`lastBounds`): no
    shorter front has both, and the rest is passed over. -/
theorem findCustomRange_of_isShortestOffer {front keywords : List String}
    (h : IsShortestOffer front keywords) : findCustomRange keywords = lastBounds front := by
  obtain ⟨⟨⟨rest, rfl⟩, hoffers⟩, hshortest⟩ := h
  have hlate : ∀ shorter, shorter <+: front → shorter ≠ front → ¬ OffersCustom shorter := by
    intro shorter hbegin hne hoffers'
    have hle := hshortest shorter ⟨hbegin.trans (List.prefix_append _ _), hoffers'⟩
    exact hne (hbegin.eq_of_length_le hle)
  have hfound : front.foldl noteBound (none, none) = lastBounds front :=
    findCustomRange_of_stops_late hlate
  rw [findCustomRange, List.foldl_append, hfound]
  exact foldl_noteBound_of_both ((isSome_lastBounds_iff front).2 hoffers) rest

/-- A list that does not have both kinds is searched to its end, since no front has both either. -/
theorem findCustomRange_of_not_offersCustom {keywords : List String} (h : ¬ OffersCustom keywords) :
    findCustomRange keywords = lastBounds keywords :=
  findCustomRange_of_stops_late fun _ hbegin _ hoffers => h (hoffers.of_subset hbegin.subset)

/-- If there is one keyword of a kind, it is the last of its kind in every part of the list that has
    one of that kind. -/
theorem getLast?_filter_of_unique {p : String → Prop} [DecidablePred p] {keywords : List String}
    {keyword : String} (hexists : ∃ k ∈ keywords, p k) (hunique : ∀ k ∈ keywords, p k → k = keyword) :
    (keywords.filter (p ·)).getLast? = some keyword := by
  obtain ⟨last, hlast⟩ := Option.isSome_iff_exists.1 (isSome_getLast?_filter_iff.2 hexists)
  obtain ⟨hmem, hp⟩ := List.mem_filter.1 (List.mem_of_getLast? hlast)
  rw [hlast, hunique last hmem (of_decide_eq_true hp)]

/-- **One keyword of each kind is found**, whatever its place: it is the last of its kind in every
    front that has it. -/
theorem findCustomRange_of_perm {keywords others : List String} {least most : String}
    (hleast : IsLeastKeyword least) (hmost : IsMostKeyword most)
    (hothers : ∀ k ∈ others, ¬ IsLeastKeyword k ∧ ¬ IsMostKeyword k)
    (hperm : keywords.Perm (least :: most :: others)) :
    findCustomRange keywords = (some least, some most) := by
  have hmem : ∀ k ∈ keywords, k = least ∨ k = most ∨ k ∈ others := by
    intro k hk
    simpa using hperm.subset hk
  have hoffers : OffersCustom keywords :=
    ⟨⟨least, hperm.symm.subset (by simp), hleast⟩, most, hperm.symm.subset (by simp), hmost⟩
  obtain ⟨front, hfront, -⟩ := existsUnique_shortestOffer hoffers
  obtain ⟨⟨hbegin, hexistsLeast, hexistsMost⟩, -⟩ := id hfront
  rw [findCustomRange_of_isShortestOffer hfront]
  refine Prod.ext (getLast?_filter_of_unique hexistsLeast ?_)
    (getLast?_filter_of_unique hexistsMost ?_)
  · intro k hk hkLeast
    rcases hmem k (hbegin.subset hk) with rfl | rfl | hother
    · rfl
    · exact absurd hmost hkLeast.not_isMostKeyword
    · exact absurd hkLeast (hothers k hother).1
  · intro k hk hkMost
    rcases hmem k (hbegin.subset hk) with rfl | rfl | hother
    · exact absurd hkMost hleast.not_isMostKeyword
    · rfl
    · exact absurd hkMost (hothers k hother).2

/-- **Which bounds are found**, for any keywords.  They are the last minimum and the last maximum of
    the shortest front of the list that has both kinds (`IsShortestOffer`), and of the whole list if
    it does not have both.  So a kind is found exactly if some keyword is of it; and one minimum and
    one maximum are found in any order, among any other names. -/
theorem findCustomRange_of_front (keywords : List String) :
    -- where the search ends
    (∀ front, IsShortestOffer front keywords → findCustomRange keywords = lastBounds front) ∧
    (OffersCustom keywords → ∃! front, IsShortestOffer front keywords) ∧
    (¬ OffersCustom keywords → findCustomRange keywords = lastBounds keywords) ∧
    -- which kinds are found
    ((findCustomRange keywords).1 = none ↔ ∀ k ∈ keywords, ¬ IsLeastKeyword k) ∧
    ((findCustomRange keywords).2 = none ↔ ∀ k ∈ keywords, ¬ IsMostKeyword k) ∧
    ((findCustomRange keywords).1.isSome = true ∧ (findCustomRange keywords).2.isSome = true ↔
      OffersCustom keywords) ∧
    -- one of each kind
    ∀ least most others, IsLeastKeyword least → IsMostKeyword most →
      (∀ k ∈ others, ¬ IsLeastKeyword k ∧ ¬ IsMostKeyword k) →
      keywords.Perm (least :: most :: others) → findCustomRange keywords = (some least, some most) := by
  obtain ⟨hleast, hmost⟩ := isSome_foldl_noteBound keywords (none, none)
  have hfoundLeast : (findCustomRange keywords).1.isSome = true ↔
      ∃ k ∈ keywords, IsLeastKeyword k := hleast.trans (or_iff_right Bool.false_ne_true)
  have hfoundMost : (findCustomRange keywords).2.isSome = true ↔
      ∃ k ∈ keywords, IsMostKeyword k := hmost.trans (or_iff_right Bool.false_ne_true)
  refine ⟨fun front h => findCustomRange_of_isShortestOffer h, existsUnique_shortestOffer,
    findCustomRange_of_not_offersCustom, ?_, ?_, and_congr hfoundLeast hfoundMost, ?_⟩
  · rw [← Option.not_isSome_iff_eq_none, hfoundLeast]
    push Not
    rfl
  · rw [← Option.not_isSome_iff_eq_none, hfoundMost]
    push Not
    rfl
  · intro least most others hisLeast hisMost hothers hperm
    exact findCustomRange_of_perm hisLeast hisMost hothers hperm

/-- Of three minima the second one is found, which is the last one in front of the maximum. -/
theorem findCustomRange_of_front_three_minima :
    let front := ["custom_min_1x1in", "na_letter_8.5x11in", "roll_min_2x2in", "custom_max_4x6in"]
    let keywords := front ++ ["roll_min_3x3in"]
    IsShortestOffer front keywords ∧
      findCustomRange keywords = (some "roll_min_2x2in", some "custom_max_4x6in") := by
  intro front keywords
  have hshorter : ∀ n < 4, ¬ OffersCustom (keywords.take n) := by decide
  have hfront : IsShortestOffer front keywords := by
    refine ⟨⟨List.prefix_append _ _, by decide⟩, ?_⟩
    rintro other ⟨hbegin, hoffers⟩
    by_contra hlt
    rw [List.prefix_iff_eq_take.1 hbegin] at hoffers
    exact hshorter _ (not_le.1 hlt) hoffers
  exact ⟨hfront, (findCustomRange_of_front keywords).1 front hfront⟩

end PrinterConsole
