/-
  Vocabularies of flags: sets of members as numbers, and back.

  In a vocabulary of flags no two codes share a bit, so the members of a set can be told from its
  number (`inSet_setWhere`).  A number that comes from elsewhere may have bits besides; `IsSet`
  says that it has none.  What the keywords of a set are read back as is then the set itself.

  `Flags` is a class of propositions: what it asks is decided once for each vocabulary
  (`Flags.of_listed`), and everything else is proved for all of them at once.

  Main statements: the bit of a member says whether it was put in (`inSet_setWhere`), a number
  that is made of members is a set of flags (`isSet_setWhere`), and such a set is what its
  keywords name (`setOfJson_keywordsOf`).
-/
import PrinterConsole.Keyword.Print
import PrinterConsole.Proofs.Fault

namespace PrinterConsole.Vocabulary

/-- A vocabulary `α` of flags: all members are listed, each has bits of its own, and a keyword names
    its member. -/
class Flags (α : Type) [Vocabulary α] : Prop where
  mem_members : ∀ m : α, m ∈ (members : List α)
  code_ne_zero : ∀ m : α, code m ≠ 0
  code_and_code : ∀ {m n : α}, m ≠ n → code m &&& code n = 0
  emptySet : hasEmptySet α = true
  keyword_ne_empty : ∀ m : α, keyword m ≠ ""
  ofKeyword?_keyword : ∀ m : α, ofKeyword? (keyword m) = some m

/-- All of `Flags` but the completeness of the list can be checked member by member. -/
theorem Flags.of_listed {α : Type} [Vocabulary α] (hm : ∀ m : α, m ∈ (members : List α))
    (he : hasEmptySet α = true)
    (h : ∀ m ∈ (members : List α),
      code m ≠ 0 ∧ keyword m ≠ "" ∧ ofKeyword? (keyword m) = some m ∧
        ∀ n ∈ (members : List α), m ≠ n → code m &&& code n = 0) : Flags α where
  mem_members := hm
  code_ne_zero m := (h m (hm m)).1
  code_and_code hne := (h _ (hm _)).2.2.2 _ (hm _) hne
  emptySet := he
  keyword_ne_empty m := (h m (hm m)).2.1
  ofKeyword?_keyword m := (h m (hm m)).2.2.1

instance : Flags ColorMode :=
  .of_listed (by rintro (_ | _) <;> decide) (by decide) (by decide)

instance : Flags Content :=
  .of_listed (by rintro (_ | _) <;> decide) (by decide) (by decide)

instance : Flags Scaling :=
  .of_listed (by rintro (_ | _) <;> decide) (by decide) (by decide)

instance : Flags Sides :=
  .of_listed (by rintro (_ | _) <;> decide) (by decide) (by decide)

instance : Flags Tracking :=
  .of_listed (by rintro (_ | _) <;> decide) (by decide) (by decide)

variable {α : Type} [Vocabulary α]

/-! ## Bits of a set -/

theorem and_foldl_or_eq_zero_iff (n : Nat) (codes : List Nat) (start : Nat) :
    n &&& codes.foldl (· ||| ·) start = 0 ↔ n &&& start = 0 ∧ ∀ c ∈ codes, n &&& c = 0 := by
  induction codes generalizing start with
  | nil => simp
  | cons c rest ih =>
    rw [List.foldl_cons, ih, Nat.and_or_distrib_left, Nat.or_eq_zero_iff, List.forall_mem_cons,
      and_assoc]

/-- **A member is in the set of those with `p` exactly if it has `p`**: its code shares a bit with
    no other (`and_foldl_or_eq_zero_iff`). -/
theorem inSet_setWhere [Flags α] (p : α → Bool) (m : α) : inSet (setWhere p) m = p m := by
  have hbits : inSet (setWhere p) m = false ↔
      ∀ n ∈ (members : List α).filter p, code m &&& code n = 0 := by
    show (code m &&& ((members.filter p).map code).foldl (· ||| ·) 0 != 0) = false ↔ _
    rw [bne_eq_false_iff_eq, and_foldl_or_eq_zero_iff, List.forall_mem_map]
    exact ⟨fun h => h.2, fun h => ⟨Nat.and_zero _, h⟩⟩
  cases hp : p m with
  | false =>
    rw [hbits]
    intro n hn
    -- `n` has `p` and `m` has not, so they are two members
    refine Flags.code_and_code fun hmn => ?_
    rw [hmn, (List.mem_filter.1 hn).2] at hp
    exact absurd hp (by decide)
  | true =>
    rw [← Bool.not_eq_false, hbits]
    intro h
    have hself := h m (List.mem_filter.2 ⟨Flags.mem_members m, hp⟩)
    rw [Nat.and_self] at hself
    exact Flags.code_ne_zero m hself

/-- The members in a set that was made of members are those, by `inSet_setWhere` for each. -/
theorem membersIn_setWhere [Flags α] (p : α → Bool) :
    membersIn α (setWhere p) = members.filter p := by
  unfold membersIn
  exact List.filter_congr fun m _ => inSet_setWhere p m

/-! ## Keywords -/

/-- A `keyword` as a JSON value names its member. -/
theorem ofJson?_keyword [Flags α] (m : α) : ofJson? (.string (keyword m)) = .ok (some m) := by
  have ht : (Json.string (keyword m)).truthy = true := by
    simpa [Json.truthy] using Flags.keyword_ne_empty m
  simp [ofJson?, ht, Flags.ofKeyword?_keyword]

/-- Keywords that are written are all read again, as the members they were. -/
theorem mapM_ofJson?_keywords [Flags α] (ms : List α) :
    (ms.map fun m => Json.string (keyword m)).mapM
      (fun v => (ofJson? v : Except Fault (Option α))) = .ok (ms.map some) := by
  induction ms with
  | nil => rfl
  | cons m rest ih =>
    rw [List.map_cons, List.mapM_cons, ofJson?_keyword, ih]
    rfl

/-! ## Sets of flags -/

/-- The number `set` is the set of its members: it has no bits besides. -/
def IsSet (α : Type) [Vocabulary α] [BEq α] (set : Int) : Prop := setOf (membersIn α set) = set

instance (α : Type) [Vocabulary α] [BEq α] (set : Int) : Decidable (IsSet α set) :=
  inferInstanceAs (Decidable (_ = _))

variable [BEq α]

/-- The set where `p` holds has no bits besides those of its members. -/
theorem isSet_setWhere [LawfulBEq α] [Flags α] (p : α → Bool) : IsSet α (setWhere p) := by
  have hcontains : (fun m : α => (members.filter p).contains m) = p := by
    funext m
    rw [Bool.eq_iff_iff, List.contains_iff_mem, List.mem_filter]
    exact ⟨fun h => h.2, fun h => ⟨Flags.mem_members m, h⟩⟩
  rw [IsSet, membersIn_setWhere, setOf, hcontains]

theorem setOf_nil : setOf ([] : List α) = 0 := by
  have hnone : (members : List α).filter (fun m => ([] : List α).contains m) = [] := by simp
  rw [setOf, setWhere, hnone]
  rfl

theorem isSet_setOf [LawfulBEq α] [Flags α] (ms : List α) : IsSet α (setOf ms) := isSet_setWhere _

/-- Whatever names a set names a set of flags (`IsSet`). -/
theorem isSet_of_setOfJson [LawfulBEq α] [Flags α] {v : Json} {set : Int}
    (h : setOfJson α v = .ok set) : IsSet α set := by
  unfold setOfJson at h
  split at h
  · cases h
  · split at h
    · cases h
      rw [← setOf_nil (α := α)]
      exact isSet_setOf _
    · obtain ⟨items, -, h⟩ := bind_eq_ok.1 h
      obtain ⟨found, -, h⟩ := bind_eq_ok.1 h
      cases h
      exact isSet_setOf _

/-- **A set of flags is what its list of keywords (`keywordsOf`) names.** -/
theorem setOfJson_keywordsOf [Flags α] {set : Int} (hs : IsSet α set) :
    setOfJson α (.array ((keywordsOf α set).map .string)) = .ok set := by
  have hflags : hasEmptySet α = true := Flags.emptySet
  have hitems : (keywordsOf α set).map Json.string =
      (membersIn α set).map fun m => .string (keyword m) := by
    rw [keywordsOf, List.map_map]
    rfl
  rw [hitems, setOfJson]
  simp only [hflags, Bool.not_true, Bool.false_eq_true, if_false]
  rw [IsSet] at hs
  cases hm : membersIn α set with
  | nil =>
    -- the empty list counts as unset, which is the empty set as well
    have hz : set = 0 := by rw [← hs, hm, setOf_nil]
    simp [Json.truthy, hz]
  | cons m rest =>
    rw [hm] at hs
    show setOfItems α ((m :: rest).map fun m => .string (keyword m)) = _
    rw [setOfItems, mapM_ofJson?_keywords]
    show Except.ok (setOf (((m :: rest).map some).filterMap id)) = _
    rw [List.filterMap_map]
    simp only [Function.id_comp, List.filterMap_some]
    rw [hs]

end PrinterConsole.Vocabulary
