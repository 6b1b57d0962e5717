/-
  Names that the program's log covers.

  A name is below the program's if the program's name and a dot come first in it.  That is all
  there is to it as long as no dots stand next to each other (`isHeard_of_plain`).  Of a run of
  dots, though, only every second one is looked at on the way up, unless a name that ends inside
  the run is known: there the way goes on from that name.  So what counts is the dots up to the
  first such name, and the log is reached if they are odd in number (`mem_namesAbove_dots`).

  A name that goes on right behind the program's name is not below it, however much it looks like
  it (`not_isHeard_of_sibling`).

  Main statement: `covers_iff`.
-/
import Mathlib.Data.List.Basic
import PrinterConsole.Log

namespace PrinterConsole.Log

/-! ## The way up

  `namesAbove` goes from the end of a name to its front, and looks up what stands before each
  dot. -/

/-- What is above a name (`namesAbove`) stands before one of its dots. -/
theorem mem_namesAbove {known : List String} {name : String} :
    ∀ {cs : List Char}, name ∈ namesAbove known cs →
      ∃ back, cs.reverse = name.toList ++ '.' :: back
  | [], h => by cases h
  | [_], h => by cases h
  | c :: d :: front, h => by
    rw [namesAbove] at h
    by_cases hc : c = '.'
    · subst hc
      rw [if_pos rfl] at h
      dsimp only at h
      split at h
      · rcases List.mem_cons.1 h with rfl | h
        · exact ⟨[], by rw [String.toList_ofList, List.reverse_cons]⟩
        · obtain ⟨back, hback⟩ := mem_namesAbove h
          exact ⟨back ++ ['.'], by rw [List.reverse_cons, hback]; simp⟩
      · obtain ⟨back, hback⟩ := mem_namesAbove h
        exact ⟨back ++ [d, '.'], by rw [List.reverse_cons, List.reverse_cons, hback]; simp⟩
    · rw [if_neg hc] at h
      obtain ⟨back, hback⟩ := mem_namesAbove h
      exact ⟨back ++ [c], by rw [List.reverse_cons, hback]; simp⟩

theorem namesAbove_of_notMem (known : List String) :
    ∀ {cs : List Char}, '.' ∉ cs → namesAbove known cs = []
  | [], _ => rfl
  | [_], _ => rfl
  | c :: d :: front, h => by
    rw [List.mem_cons, not_or] at h
    rw [namesAbove, if_neg (Ne.symm h.1), namesAbove_of_notMem known h.2]

/-- Above a name that is no longer than `cs` is the same what is above `word ++ cs`, if `word` is
    not separated from `cs` by a dot of its own. -/
theorem mem_namesAbove_append {known : List String} {name : String} {cs : List Char}
    (hlen : name.toList.length ≤ cs.length) :
    ∀ {word : List Char}, word.getLast? ≠ some '.' →
      (name ∈ namesAbove known (word ++ cs) ↔ name ∈ namesAbove known cs)
  | [], _ => Iff.rfl
  | [c], h => by
    cases cs with
    | nil => exact Iff.rfl
    | cons d cs =>
      have hc : c ≠ '.' := fun hc => h (congrArg some hc)
      rw [List.cons_append, List.nil_append, namesAbove, if_neg hc]
  | c :: d :: word, h => by
    rw [List.getLast?_cons_cons] at h
    rw [List.cons_append, List.cons_append, namesAbove]
    by_cases hc : c = '.'
    · rw [if_pos hc]
      dsimp only
      split
      · -- a name that ends inside the word is longer than the one that is looked for
        have hne : name ≠ String.ofList (d :: (word ++ cs)).reverse := by
          intro heq
          rw [heq, String.toList_ofList, List.length_reverse, List.length_cons,
            List.length_append] at hlen
          omega
        rw [List.mem_cons, or_iff_right hne]
        exact mem_namesAbove_append hlen h
      · have hword : word.getLast? ≠ some '.' := by
          intro hlast
          rw [List.getLast?_cons, hlast] at h
          exact h rfl
        exact mem_namesAbove_append hlen hword
    · rw [if_neg hc]
      exact mem_namesAbove_append hlen h

/-! ## Dots behind the program's name

  The only thing that can keep the log from a name below its own is a row of dots: each is either
  looked at or passed over with the one before it.  So of the dots that follow the program's name it
  matters whether they are odd in number (`HasOddDots`). -/

/-- The program's name and `n` dots. -/
def dotted (n : Nat) : String := programName ++ String.ofList (List.replicate n '.')

theorem toList_dotted (n : Nat) :
    (dotted n).toList = programName.toList ++ List.replicate n '.' := by
  rw [dotted, String.toList_append, String.toList_ofList]

/-- Of `n` dots those that count are odd in number: all of them, or those up to the first place
    where a known name ends. -/
def HasOddDots (known : List String) (n : Nat) : Prop :=
  ∃ k, k % 2 = 1 ∧ k ≤ n ∧ (k = n ∨ dotted k ∈ known) ∧ ∀ i, 0 < i → i < k → dotted i ∉ known

theorem hasOddDots_one (known : List String) : HasOddDots known 1 :=
  ⟨1, rfl, Nat.le_refl 1, .inl rfl, fun i hpos hlt => by omega⟩

theorem not_hasOddDots_zero (known : List String) : ¬ HasOddDots known 0 := by
  rintro ⟨k, hodd, hle, -⟩
  omega

/-- Only known names of this form (`dotted`) count. -/
theorem HasOddDots.congr {known known' : List String}
    (h : ∀ i, 0 < i → (dotted i ∈ known ↔ dotted i ∈ known')) {n : Nat} (hn : HasOddDots known n) :
    HasOddDots known' n := by
  obtain ⟨k, hodd, hle, hend, hnone⟩ := hn
  refine ⟨k, hodd, hle, hend.imp_right (h k (by omega)).1, fun i hpos hlt hmem => ?_⟩
  exact hnone i hpos hlt ((h i hpos).2 hmem)

/-- If the name with one dot less is known, the way goes on from it, so `HasOddDots` is as it
    was. -/
theorem hasOddDots_succ_of_mem {known : List String} {n : Nat} (h : dotted n ∈ known) (hn : 0 < n) :
    HasOddDots known (n + 1) ↔ HasOddDots known n := by
  constructor
  · rintro ⟨k, hodd, hle, hend, hnone⟩
    have hkn : k ≤ n := by
      by_contra hlt
      exact hnone n hn (by omega) h
    refine ⟨k, hodd, hkn, ?_, hnone⟩
    rcases hend with rfl | hmem
    · omega
    · exact .inr hmem
  · rintro ⟨k, hodd, hle, hend, hnone⟩
    refine ⟨k, hodd, by omega, .inr ?_, hnone⟩
    rcases hend with rfl | hmem
    · exact h
    · exact hmem

/-- If the name with one dot less is not known, two dots are passed over. -/
theorem hasOddDots_add_two_of_notMem {known : List String} {n : Nat} (h : dotted (n + 1) ∉ known) :
    HasOddDots known (n + 2) ↔ HasOddDots known n := by
  constructor
  · rintro ⟨k, hodd, hle, hend, hnone⟩
    by_cases hk : k ≤ n
    · rcases hend with rfl | hmem
      · omega
      · exact ⟨k, hodd, hk, .inr hmem, hnone⟩
    · -- the dots go on to the end, and two fewer are as odd
      have hkn : k = n + 2 := by
        rcases hend with hkn | hmem
        · exact hkn
        · have hne : k ≠ n + 1 := fun hk => h (hk ▸ hmem)
          omega
      exact ⟨n, by omega, Nat.le_refl n, .inl rfl, fun i hpos hlt => hnone i hpos (by omega)⟩
  · rintro ⟨k, hodd, hle, hend, hnone⟩
    by_cases hmem : dotted k ∈ known
    · exact ⟨k, hodd, by omega, .inr hmem, hnone⟩
    · have hkn : k = n := by
        rcases hend with hkn | hk
        · exact hkn
        · exact absurd hk hmem
      -- the name of `n` dots may not be known, but then those of `n + 1` are not either
      subst hkn
      refine ⟨k + 2, by omega, Nat.le_refl _, .inl rfl, fun i hpos hlt => ?_⟩
      by_cases hi : i < k
      · exact hnone i hpos hi
      · have hcases : i = k ∨ i = k + 1 := by omega
        rcases hcases with rfl | rfl
        · exact hmem
        · exact h

/-- Behind a dot `namesAbove` looks at what stands before it. -/
theorem namesAbove_dot (known : List String) {cs : List Char} (h : cs ≠ []) :
    namesAbove known ('.' :: cs) =
      if String.ofList cs.reverse ∈ known then String.ofList cs.reverse :: namesAbove known cs
      else namesAbove known cs.tail := by
  cases cs with
  | nil => exact absurd rfl h
  | cons d front =>
    rw [namesAbove, if_pos rfl]
    rfl

/-- `dotted n` backwards, as `namesAbove` goes through it. -/
def dottedBack (n : Nat) : List Char := List.replicate n '.' ++ programName.toList.reverse

theorem dottedBack_succ (n : Nat) : dottedBack (n + 1) = '.' :: dottedBack n := rfl

theorem dottedBack_ne_nil (n : Nat) : dottedBack n ≠ [] :=
  List.append_ne_nil_of_right_ne_nil _ (by decide)

theorem ofList_dottedBack (n : Nat) : String.ofList (dottedBack n).reverse = dotted n := by
  rw [← String.toList_inj, String.toList_ofList, toList_dotted, dottedBack, List.reverse_append,
    List.reverse_reverse, List.reverse_replicate]

theorem dotted_zero : dotted 0 = programName := by decide

theorem dotted_succ_ne (n : Nat) : programName ≠ dotted (n + 1) := by
  intro h
  have hlen := congrArg (fun s : String => s.toList.length) h
  rw [toList_dotted, List.length_append, List.length_replicate] at hlen
  omega

/-- **The program's name is above itself with dots behind it exactly if the dots that count are odd
    in number.** By strong recursion: the way up goes on with one dot less if the name that ends
    there is known, and with two dots less if it is not, which is what `hasOddDots_succ_of_mem` and
    `hasOddDots_add_two_of_notMem` say. -/
theorem mem_namesAbove_dots {known : List String} (hknown : programName ∈ known) :
    ∀ n, programName ∈ namesAbove known (dottedBack n) ↔ HasOddDots known n
  | 0 => by
    rw [namesAbove_of_notMem known (by decide)]
    exact iff_of_false List.not_mem_nil (not_hasOddDots_zero known)
  | 1 => by
    refine iff_of_true ?_ (hasOddDots_one known)
    rw [dottedBack_succ, namesAbove_dot known (dottedBack_ne_nil 0), ofList_dottedBack, dotted_zero,
      if_pos hknown]
    exact List.mem_cons_self
  | n + 2 => by
    rw [dottedBack_succ, namesAbove_dot known (dottedBack_ne_nil (n + 1)), ofList_dottedBack]
    split
    · rename_i hmem
      rw [hasOddDots_succ_of_mem hmem (Nat.succ_pos n), ← mem_namesAbove_dots hknown (n + 1),
        List.mem_cons, or_iff_right (dotted_succ_ne n)]
    · rename_i hmem
      rw [hasOddDots_add_two_of_notMem hmem, ← mem_namesAbove_dots hknown n]
      rfl

/-! ## Names that the log covers

  The way up from any name comes to the dots behind the program's name, if it has any there, or else
  not to that name at all. -/

/-- The program's log hears what is logged under the `name`: it is the program's name, or dots
    follow that name, of which those that count are odd in number. -/
def IsHeard (known : List String) (name : String) : Prop :=
  name = programName ∨ ∃ n rest, name = dotted n ++ rest ∧ rest.toList.head? ≠ some '.' ∧
    HasOddDots known n

/-- Whether a name is heard depends on the known names of the form `dotted`, and on no others. -/
theorem IsHeard.congr {known known' : List String}
    (h : ∀ i, 0 < i → (dotted i ∈ known ↔ dotted i ∈ known')) {name : String}
    (hname : IsHeard known name) : IsHeard known' name := by
  rcases hname with rfl | ⟨n, rest, rfl, hrest, hodd⟩
  · exact .inl rfl
  · exact .inr ⟨n, rest, rfl, hrest, hodd.congr h⟩

/-- The name of a program's part that is put behind a single dot is heard (`IsHeard`). -/
theorem isHeard_of_plain (known : List String) {rest : String} (h : rest.toList.head? ≠ some '.') :
    IsHeard known (programName ++ "." ++ rest) :=
  .inr ⟨1, rest, rfl, h, hasOddDots_one known⟩

/-- A text is its leading dots and what follows them. -/
theorem exists_dots_append :
    ∀ cs : List Char, ∃ n rest, cs = List.replicate n '.' ++ rest ∧ rest.head? ≠ some '.'
  | [] => ⟨0, [], rfl, nofun⟩
  | c :: cs => by
    by_cases hc : c = '.'
    · obtain ⟨n, rest, hcs, hrest⟩ := exists_dots_append cs
      exact ⟨n + 1, rest, by rw [hc, hcs, List.replicate_succ, List.cons_append], hrest⟩
    · exact ⟨0, c :: cs, rfl, fun h => hc (Option.some.inj h)⟩

/-- A name that goes on with `rest` right behind the program's name is not heard. -/
theorem not_isHeard_of_sibling (known : List String) {rest : String} (hne : rest ≠ "")
    (h : rest.toList.head? ≠ some '.') : ¬ IsHeard known (programName ++ rest) := by
  rintro (heq | ⟨n, rest', heq, -, hodd⟩)
  · have hlist := congrArg String.toList heq
    rw [String.toList_append, List.append_right_eq_self] at hlist
    exact hne (String.toList_eq_nil_iff.1 hlist)
  · obtain ⟨k, hk, hle, -⟩ := hodd
    obtain ⟨m, rfl⟩ : ∃ m, n = m + 1 := ⟨n - 1, by omega⟩
    have hlist := congrArg String.toList heq
    rw [String.toList_append, String.toList_append, toList_dotted, List.append_assoc] at hlist
    rw [List.append_cancel_left hlist] at h
    exact h rfl

/-- Above a name (`namesAbove`) that begins with the program's name and dots, only the dots
    count. -/
theorem mem_namesAbove_dotted {known : List String} (hknown : programName ∈ known) {n : Nat}
    {rest : String} (hrest : rest.toList.head? ≠ some '.') :
    programName ∈ namesAbove known (dotted n ++ rest).toList.reverse ↔ HasOddDots known n := by
  have hback : (dotted n ++ rest).toList.reverse = rest.toList.reverse ++ dottedBack n := by
    rw [String.toList_append, toList_dotted, List.reverse_append, List.reverse_append,
      List.reverse_replicate, dottedBack]
  have hlen : programName.toList.length ≤ (dottedBack n).length := by
    rw [dottedBack, List.length_append, List.length_reverse]
    omega
  rw [hback, mem_namesAbove_append hlen (by rwa [List.getLast?_reverse]),
    mem_namesAbove_dots hknown]

/-- **The log of the program covers the names that are heard** (`IsHeard`), for every name and
    whatever is known. -/
theorem covers_iff {s : Settings} (hs : s.name = programName) {known : List String}
    (hknown : programName ∈ known) {name : String} :
    s.covers known name = true ↔ IsHeard known name := by
  have htop : (programName == topName) = false := by decide
  rw [Settings.covers, hs, htop, Bool.false_or, Bool.or_eq_true, beq_iff_eq, List.contains_iff_mem]
  refine or_congr_right ?_
  constructor
  · intro hmem
    obtain ⟨back, hback⟩ := mem_namesAbove hmem
    obtain ⟨n, rest, hdots, hrest⟩ := exists_dots_append ('.' :: back)
    rw [← String.toList_ofList (l := rest)] at hrest
    have hname : name = dotted n ++ String.ofList rest := by
      rw [List.reverse_reverse, hdots] at hback
      rw [← String.toList_inj, hback, String.toList_append, toList_dotted, String.toList_ofList,
        List.append_assoc]
    rw [hname, mem_namesAbove_dotted hknown hrest] at hmem
    exact ⟨n, String.ofList rest, hname, hrest, hmem⟩
  · rintro ⟨n, rest, rfl, hrest, hodd⟩
    exact (mem_namesAbove_dotted hknown hrest).2 hodd

/-- Of two dots both count, and the name is not heard; but with the name that ends between them
    known, only the first one counts. -/
example :
    Settings.covers ⟨programName, infoLevel, true⟩ [programName] "printer_admin..app" = false ∧
      Settings.covers ⟨programName, infoLevel, true⟩ [programName, "printer_admin."]
        "printer_admin..app" = true := by decide

end PrinterConsole.Log
