/-
  Sets of flags and lists of keywords.

  A flag has a bit of its own, and a number stands for the set of the flags whose bits it has.
  Numbers may be negative or have bits that no flag has: a set has a flag exactly if the number
  has its bit, in two's complement without end.  Going from a number to keywords and back leaves
  the bits of the vocabulary and no others.  Going from keywords to a number and back leaves the
  members that are named, whatever their order, how often and in which spelling they are named,
  and whatever else is in the list.

  Everything is proved once, for any vocabulary with the class `SingleBits`, whose instances are
  checked member by member.  There a member is its `bit`, and `Int.testBit` is how a number is
  looked at, so that the laws of numbers of both signs are laws of bits.

  Main statements: the bits of a set (`testBit_setWhere`), what a set is read back as
  (`setWhere_inSet`), and the laws of all vocabularies of flags (`flag_keywords`).
-/
import Mathlib.Data.Int.Bitwise
import Mathlib.Data.List.Nodup
import PrinterConsole.Keyword.Device
import PrinterConsole.Proofs.Keyword.Flags
import PrinterConsole.Proofs.Keyword.Spelling

namespace PrinterConsole.Vocabulary

/-! ## One bit for each member

  The codes of a vocabulary of flags are powers of two, with greater ones for later members.  It is
  enough to see that of each vocabulary's table. -/

/-- The place of the bit of a member `m` in its `code`. -/
def bit {α : Type} [Vocabulary α] (m : α) : Nat := (code m).log2

/-- A vocabulary of `Flags` with one bit for each member, in ascending order. -/
class SingleBits (α : Type) [Vocabulary α] : Prop extends Flags α where
  code_eq : ∀ m : α, code m = 2 ^ bit m
  bit_lt_bit : (members : List α).Pairwise fun m n => bit m < bit n
  name_eq : ∀ m : α, name m = folded (keyword m)

/-- All of `SingleBits` but the order can be checked member by member, which is how the instances
    are decided. -/
theorem SingleBits.of_listed {α : Type} [Vocabulary α] [Flags α]
    (horder : (members : List α).Pairwise fun m n => bit m < bit n)
    (h : ∀ m ∈ (members : List α), code m = 2 ^ bit m ∧ name m = folded (keyword m)) :
    SingleBits α where
  code_eq m := (h m (Flags.mem_members m)).1
  bit_lt_bit := horder
  name_eq m := (h m (Flags.mem_members m)).2

instance : Flags Reason :=
  .of_listed (by rintro (_ | _) <;> decide) (by decide) (by decide +kernel)

instance : SingleBits ColorMode := .of_listed (by decide) (by decide +kernel)

instance : SingleBits Content := .of_listed (by decide) (by decide)

instance : SingleBits Scaling := .of_listed (by decide) (by decide)

instance : SingleBits Sides := .of_listed (by decide) (by decide)

instance : SingleBits Tracking := .of_listed (by decide) (by decide)

instance : SingleBits Reason := .of_listed (by decide) (by decide +kernel)

variable {α : Type} [Vocabulary α]

/-! ## The bits of a set

  A set is any whole number, also a negative one.  A member is in it if its bit is, and taking
  members in or out touches no other bit. -/

/-- A power of two shares its bit with a `set` exactly if the set has that bit, for sets of either
    sign. -/
theorem sharesBit_two_pow (k : Nat) (set : Int) : sharesBit (2 ^ k) set = set.testBit k := by
  have hpos : 2 ^ k ≠ 0 := (Nat.two_pow_pos k).ne'
  cases set with
  | ofNat bits =>
    show (2 ^ k &&& bits != 0) = bits.testBit k
    rw [Nat.two_pow_and]
    cases bits.testBit k
    · rfl
    · simp
  | negSucc absent =>
    show (2 ^ k &&& absent != 2 ^ k) = !absent.testBit k
    rw [Nat.two_pow_and]
    cases absent.testBit k
    · simpa using hpos.symm
    · simp

/-- **A member is in a set exactly if the set has its bit** (`sharesBit_two_pow`). -/
theorem inSet_eq_testBit [SingleBits α] (set : Int) (m : α) : inSet set m = set.testBit (bit m) := by
  rw [inSet, SingleBits.code_eq, sharesBit_two_pow]

theorem testBit_foldl_or (codes : List Nat) (start i : Nat) :
    (codes.foldl (· ||| ·) start).testBit i = (start.testBit i || codes.any (·.testBit i)) := by
  induction codes generalizing start with
  | nil => rw [List.foldl_nil, List.any_nil, Bool.or_false]
  | cons c rest ih => rw [List.foldl_cons, ih, Nat.testBit_or, List.any_cons, Bool.or_assoc]

/-- The number of a set that is made of the members of which `p` holds. -/
def bitsWhere (p : α → Bool) : Nat := ((members.filter p).map code).foldl (· ||| ·) 0

/-- The set where `p` holds is a natural number. -/
theorem setWhere_eq (p : α → Bool) : setWhere p = (bitsWhere p : Int) := rfl

/-- It has the bits of its members, and no others: by `testBit_foldl_or` and
    `SingleBits.code_eq`. -/
theorem testBit_bitsWhere [SingleBits α] (p : α → Bool) (i : Nat) :
    (bitsWhere p).testBit i = true ↔ ∃ m : α, p m = true ∧ bit m = i := by
  rw [bitsWhere, testBit_foldl_or, Nat.zero_testBit, Bool.false_or, List.any_eq_true]
  constructor
  · rintro ⟨c, hc, hbit⟩
    obtain ⟨m, hm, rfl⟩ := List.mem_map.1 hc
    rw [SingleBits.code_eq, Nat.testBit_two_pow, decide_eq_true_eq] at hbit
    exact ⟨m, (List.mem_filter.1 hm).2, hbit⟩
  · rintro ⟨m, hp, rfl⟩
    refine ⟨code m, List.mem_map_of_mem (List.mem_filter.2 ⟨Flags.mem_members m, hp⟩), ?_⟩
    rw [SingleBits.code_eq, Nat.testBit_two_pow, decide_eq_true_eq]

/-- **The bits of a set are those of its members**, by `Nat.testBit`. -/
theorem testBit_setWhere [SingleBits α] (p : α → Bool) (i : Nat) :
    (setWhere p).testBit i = true ↔ ∃ m : α, p m = true ∧ bit m = i :=
  testBit_bitsWhere p i

/-- The meet with a natural number is one again, also for a negative `v`, and has the bits that both
    have. -/
theorem exists_land_natCast (v : Int) (n : Nat) :
    ∃ bits : Nat, v.land n = bits ∧ ∀ i, bits.testBit i = (v.testBit i && n.testBit i) := by
  cases v with
  | ofNat m => exact ⟨m &&& n, rfl, fun i => Nat.testBit_and m n i⟩
  | negSucc m =>
    refine ⟨n.ldiff m, rfl, fun i => ?_⟩
    rw [Nat.testBit_ldiff, Bool.and_comm]
    rfl

/-- **The members of a number make up the number in the bits of the vocabulary** (`Int.land` with
    `fullSet`): bit by bit, both sides have the bits of members that the number has. -/
theorem setWhere_inSet [SingleBits α] (v : Int) :
    setWhere (fun m : α => inSet v m) = v.land (fullSet α) := by
  obtain ⟨bits, hland, hbits⟩ := exists_land_natCast v (bitsWhere fun _ : α => true)
  rw [fullSet, setWhere_eq, setWhere_eq, hland]
  refine congrArg _ (Nat.eq_of_testBit_eq fun i => ?_)
  rw [hbits, Bool.eq_iff_iff, Bool.and_eq_true, testBit_bitsWhere, testBit_bitsWhere]
  constructor
  · rintro ⟨m, hm, rfl⟩
    exact ⟨inSet_eq_testBit v m ▸ hm, m, rfl, rfl⟩
  · rintro ⟨hv, m, -, rfl⟩
    exact ⟨m, (inSet_eq_testBit v m).trans hv, rfl⟩

/-! ## Keywords of a set

  The keywords of a set are those of its members, each once, in the order of the vocabulary. -/

/-- No two members have one `keyword`, as a keyword names its member. -/
theorem keyword_injective [Flags α] {m n : α} (h : keyword m = keyword n) : m = n := by
  have hm := Flags.ofKeyword?_keyword m
  rw [h, Flags.ofKeyword?_keyword] at hm
  exact (Option.some.inj hm).symm

/-- The keywords of a number (`keywordsOf`) are those of the members whose bit it has. -/
theorem keywordsOf_eq [SingleBits α] (v : Int) :
    keywordsOf α v = ((members : List α).filter fun m => v.testBit (bit m)).map keyword :=
  congrArg (List.map keyword) (List.filter_congr fun m _ => inSet_eq_testBit v m)

theorem keywordsOf_nodup [SingleBits α] (v : Int) : (keywordsOf α v).Nodup := by
  have hmembers : (members : List α).Nodup := by
    refine SingleBits.bit_lt_bit.imp fun hlt heq => ?_
    rw [heq] at hlt
    exact Nat.lt_irrefl _ hlt
  exact List.Nodup.map (fun _ _ => keyword_injective) (hmembers.filter _)

/-! ## Named members

  A text names a member if it spells its keyword, blanks and case apart.  A list of texts makes the
  set of the members that it names, whatever else is in the list. -/

/-- What a text names is told by its form `folded`: the member whose keyword folds alike. -/
theorem ofKeyword?_eq_some_iff [SingleBits α] {text : String} {m : α} :
    ofKeyword? text = some m ↔ folded text = folded (keyword m) := by
  constructor
  · intro h
    have hname := List.find?_some h
    rw [beq_iff_eq, SingleBits.name_eq] at hname
    exact hname.symm
  · intro h
    have hsame : (ofKeyword? text : Option α) = ofKeyword? (keyword m) := by
      rw [ofKeyword?, ofKeyword?, h]
    rw [hsame, Flags.ofKeyword?_keyword]

/-- A `text` is looked up as a keyword, also the empty one, which names no member. -/
theorem ofJson?_string [Flags α] (text : String) :
    (ofJson? (.string text) : Except Fault (Option α)) = .ok (ofKeyword? text) := by
  unfold ofJson?
  split
  · rename_i hempty
    -- the empty text is folded to itself, and no member has an empty name
    have htext : text = "" := by simpa [Json.truthy] using hempty
    subst htext
    refine congrArg _ (Eq.symm (List.find?_eq_none.2 fun m _ hname => ?_))
    have hkeyword : (keyword m).toList = [] := by
      have hlist := congrArg String.toList (beq_iff_eq.1 hname)
      rw [name, String.toList_ofList, toList_folded] at hlist
      exact List.map_eq_nil_iff.1 hlist
    exact Flags.keyword_ne_empty m (String.toList_inj.1 hkeyword)
  · rfl

variable [BEq α]

/-- The set that a list of `texts` names. -/
def ofTexts (α : Type) [Vocabulary α] [BEq α] (texts : List String) : Except Fault Int :=
  setOfJson α (.array (texts.map .string))

/-- A list of `texts` always names a set, that of the members named. -/
theorem ofTexts_eq [Flags α] (texts : List String) :
    ofTexts α texts = .ok (setOf (texts.filterMap fun text => (ofKeyword? text : Option α))) := by
  have hflags : hasEmptySet α = true := Flags.emptySet
  have hitems : (texts.map Json.string).mapM (fun v => (ofJson? v : Except Fault (Option α))) =
      .ok (texts.map ofKeyword?) := by
    rw [List.mapM_map]
    exact mapM_eq_ok_map fun text _ => ofJson?_string text
  unfold ofTexts setOfJson
  simp only [hflags, Bool.not_true, Bool.false_eq_true, if_false]
  cases texts with
  | nil => simp [Json.truthy, setOf_nil]
  | cons text rest =>
    show setOfItems α ((text :: rest).map .string) = _
    rw [setOfItems, hitems]
    show Except.ok (setOf (((text :: rest).map ofKeyword?).filterMap id)) = _
    rw [List.filterMap_map]
    rfl

/-- A set (`setOf`) depends on which members are listed, and on nothing else. -/
theorem setOf_congr [LawfulBEq α] {ms ns : List α} (h : ∀ m, m ∈ ms ↔ m ∈ ns) :
    setOf ms = setOf ns := by
  refine congrArg setWhere (funext fun m => ?_)
  rw [Bool.eq_iff_iff, List.contains_iff_mem, List.contains_iff_mem]
  exact h m

theorem membersIn_setOf [SingleBits α] (ms : List α) :
    membersIn α (setOf ms) = members.filter fun m => ms.contains m :=
  membersIn_setWhere _

/-! ## The laws of flags

  All that is said of a vocabulary is one structure (`KeywordLaws`), which is shown once, for any
  vocabulary of flags. -/

/-- What is true of sets and lists of keywords in a vocabulary `α` of flags. -/
structure KeywordLaws (α : Type) [Vocabulary α] [BEq α] : Prop where
  /-- Each member has one bit. -/
  code_eq : ∀ m : α, code m = 2 ^ bit m
  /-- All members are listed, in ascending order of their bits. -/
  mem_members : ∀ m : α, m ∈ (members : List α)
  bit_lt_bit : (members : List α).Pairwise fun m n => bit m < bit n
  /-- The keywords of a number are those of the members whose bit it has, each once. -/
  keywords_eq : ∀ v : Int,
    keywordsOf α v = ((members : List α).filter fun m => v.testBit (bit m)).map keyword
  keywords_nodup : ∀ v : Int, (keywordsOf α v).Nodup
  /-- They are read back as the number in the bits of the members. -/
  testBit_fullSet : ∀ i, (fullSet α).testBit i = true ↔ ∃ m : α, bit m = i
  ofTexts_keywords : ∀ v : Int, ofTexts α (keywordsOf α v) = .ok (v.land (fullSet α))
  /-- The set that texts name does not depend on their order, -/
  ofTexts_perm : ∀ {texts texts' : List String}, texts.Perm texts' →
    ofTexts α texts = ofTexts α texts'
  /-- nor on how often they are repeated, -/
  ofTexts_repeat : ∀ {text : String} {texts : List String}, text ∈ texts →
    ofTexts α (text :: texts) = ofTexts α texts
  /-- nor on how they are spelled, -/
  ofTexts_respelled : ∀ {text text' : String} (front back : List String), Respelled text text' →
    ofTexts α (front ++ text :: back) = ofTexts α (front ++ text' :: back)
  /-- nor on texts that name no member. -/
  ofTexts_unknown : ∀ {text : String} (front back : List String),
    (ofKeyword? text : Option α) = none → ofTexts α (front ++ text :: back) = ofTexts α (front ++ back)
  /-- A text names the member whose keyword it is folded like. -/
  names_iff : ∀ (text : String) (m : α),
    ofKeyword? text = some m ↔ folded text = folded (keyword m)
  /-- Every list of texts names a set, and it has exactly the members that some text names. -/
  keywords_ofTexts : ∀ texts : List String, ∃ set, ofTexts α texts = .ok set ∧
    keywordsOf α set =
      ((members : List α).filter fun m => texts.any (ofKeyword? · == some m)).map keyword

/-- The keywords of a number name the number in the bits of the vocabulary (`fullSet`). -/
theorem ofTexts_keywordsOf [LawfulBEq α] [SingleBits α] (v : Int) :
    ofTexts α (keywordsOf α v) = .ok (v.land (fullSet α)) := by
  have hread : (keywordsOf α v).filterMap (fun text => (ofKeyword? text : Option α)) =
      membersIn α v := by
    rw [keywordsOf, List.filterMap_map]
    have hback : (fun text => (ofKeyword? text : Option α)) ∘ keyword = some :=
      funext Flags.ofKeyword?_keyword
    rw [hback, List.filterMap_some]
  rw [ofTexts_eq, hread, ← setWhere_inSet]
  refine congrArg (Except.ok ∘ setWhere) (funext fun m => ?_)
  rw [Bool.eq_iff_iff, List.contains_iff_mem, membersIn, List.mem_filter]
  exact ⟨And.right, fun h => ⟨Flags.mem_members m, h⟩⟩

/-- **The `KeywordLaws` hold in every vocabulary of single bits**: each field is one of the lemmas
    above. -/
theorem keywordLaws [LawfulBEq α] [SingleBits α] : KeywordLaws α where
  code_eq := SingleBits.code_eq
  mem_members := Flags.mem_members
  bit_lt_bit := SingleBits.bit_lt_bit
  keywords_eq := keywordsOf_eq
  keywords_nodup := keywordsOf_nodup
  testBit_fullSet i := by
    rw [fullSet, testBit_setWhere]
    exact exists_congr fun m => and_iff_right rfl
  ofTexts_keywords := ofTexts_keywordsOf
  ofTexts_perm h := by
    rw [ofTexts_eq, ofTexts_eq, setOf_congr fun m => (h.filterMap _).mem_iff]
  ofTexts_repeat h := by
    rw [ofTexts_eq, ofTexts_eq]
    refine congrArg Except.ok (setOf_congr fun m => ?_)
    simp only [List.mem_filterMap, List.mem_cons]
    constructor
    · rintro ⟨_, rfl | htext, hm⟩
      · exact ⟨_, h, hm⟩
      · exact ⟨_, htext, hm⟩
    · rintro ⟨text, htext, hm⟩
      exact ⟨text, .inr htext, hm⟩
  ofTexts_respelled front back h := by
    rw [ofTexts_eq, ofTexts_eq, List.filterMap_append, List.filterMap_append, List.filterMap_cons,
      List.filterMap_cons, ofKeyword?_eq_of_respelled h]
  ofTexts_unknown front back h := by
    rw [ofTexts_eq, ofTexts_eq, List.filterMap_append, List.filterMap_append,
      List.filterMap_cons_none h]
  names_iff _ _ := ofKeyword?_eq_some_iff
  keywords_ofTexts texts := by
    refine ⟨_, ofTexts_eq texts, ?_⟩
    rw [keywordsOf, membersIn_setOf]
    refine congrArg (List.map keyword) (List.filter_congr fun m _ => ?_)
    rw [Bool.eq_iff_iff, List.contains_iff_mem, List.mem_filterMap, List.any_eq_true]
    exact exists_congr fun text => and_congr_right fun _ => beq_iff_eq.symm

/-- **Sets of flags and lists of keywords are converted back and forth** in all six vocabularies of
    flags, by the `KeywordLaws`: for every number, negative or with other bits, and every list of
    texts. -/
theorem flag_keywords :
    KeywordLaws ColorMode ∧ KeywordLaws Content ∧ KeywordLaws Scaling ∧ KeywordLaws Sides ∧
      KeywordLaws Tracking ∧ KeywordLaws Reason :=
  ⟨keywordLaws, keywordLaws, keywordLaws, keywordLaws, keywordLaws, keywordLaws⟩

end PrinterConsole.Vocabulary
