/-
  A written value is read back.

  Lists and objects are written one item or member a line, so after a value a comma or a new line
  comes next (`Ends`), and what is read stops there.  Each step of the reader down into a value
  uses up a character of it, so the length of the text is fuel enough.

  The proof has three layers.  The characters of a value are given by equations, one for each kind
  of value (`chars_null` to `chars_object`), in which the lines of a list after its first are one
  list with commas in front (`linesAfter`).  `ReadsBack` says of one value that it is read where
  it is written, at any depth, with any fuel for its length and with anything behind it that does
  not go on with it; this is proved kind by kind.  `readsBack` is then the induction over the
  value.

  Main statement: the text of a value is read as the value, if no object in it has a key twice and
  its whole numbers can be written (`read_text`).
-/
import PrinterConsole.Proofs.Json.Keys
import PrinterConsole.Proofs.Json.Numbers
import PrinterConsole.Proofs.Json.Strings

namespace PrinterConsole.Json

/-! ## New lines

  Items stand on lines of their own, indented by their depth.  The reader passes over such a line
  break as over any space. -/

/-- A new line is a line feed and two spaces for each level of `depth`. -/
theorem toList_newline (depth : Nat) :
    (newline depth).toList = '\n' :: List.replicate (2 * depth) ' ' := by
  rw [newline, String.toList_append]
  exact congrArg _ String.toList_ofList

theorem ends_newline (depth : Nat) (rest : List Char) : Ends ((newline depth).toList ++ rest) := by
  rw [toList_newline]
  rintro c ⟨⟩
  exact .inr rfl

theorem ends_comma (rest : List Char) : Ends (',' :: rest) := by
  rintro c ⟨⟩
  exact .inl rfl

theorem skipSpace_cons {c : Char} (hc : isSpace c = false) (cs : List Char) :
    skipSpace (c :: cs) = c :: cs :=
  List.dropWhile_cons_of_neg (by simp [hc])

/-- A `newline` with its indentation is passed over up to what is no space. -/
theorem skipSpace_newline (depth : Nat) {c : Char} (hc : isSpace c = false) (cs : List Char) :
    skipSpace ((newline depth).toList ++ c :: cs) = c :: cs := by
  have hspace : ∀ c ∈ (newline depth).toList, isSpace c = true := by
    rw [toList_newline, List.forall_mem_cons]
    refine ⟨rfl, fun c hc => ?_⟩
    rw [List.eq_of_mem_replicate hc]
    rfl
  rw [skipSpace, List.dropWhile_append_of_pos hspace]
  exact skipSpace_cons hc cs

/-! ## Lines

  A text is taken as a list of characters (`chars`), with one equation for each kind of value: that
  is what the writer did, with the texts of items and members between line breaks. -/

/-- The characters of the value `v`, at a `depth`. -/
def chars (depth : Nat) (v : Json) : List Char := (textAt depth v).toList

/-- The characters of a text at a depth are `chars`, under which name they are rewritten from here
    on. -/
theorem toList_textAt (depth : Nat) (v : Json) : (textAt depth v).toList = chars depth v := rfl

/-- The characters of the member `m`. -/
def memberChars (depth : Nat) (m : String × Json) : List Char :=
  '"' :: (m.1.toList.flatMap escaped ++ '"' :: ':' :: ' ' :: chars depth m.2)

/-- The `lines` after the first one, each with a comma in front. -/
def linesAfter (depth : Nat) (lines : List (List Char)) : List Char :=
  lines.flatMap fun line => ',' :: ((newline depth).toList ++ line)

theorem linesAfter_cons (depth : Nat) (line : List Char) (lines : List (List Char)) :
    linesAfter depth (line :: lines) =
      ',' :: ((newline depth).toList ++ (line ++ linesAfter depth lines)) := by
  rw [linesAfter, List.flatMap_cons, List.cons_append, List.append_assoc]
  rfl

/-- Joined lines are a first one and the others with commas in front (`linesAfter`). -/
theorem toList_intercalate_lines (depth : Nat) (line : String) (lines : List String) :
    (String.intercalate "," ((line :: lines).map (newline depth ++ ·))).toList =
      (newline depth).toList ++ (line.toList ++ linesAfter depth (lines.map String.toList)) := by
  induction lines generalizing line with
  | nil => simp [linesAfter]
  | cons other lines ih =>
    rw [List.map_cons, List.map_cons, String.intercalate_cons_cons, ← List.map_cons,
      String.toList_append, ih, List.map_cons, linesAfter_cons]
    simp

/-- `itemTexts` as a `map`, for the induction on items. -/
theorem itemTexts_eq (depth : Nat) (items : List Json) :
    itemTexts depth items = (items.map (textAt depth)).map (newline depth ++ ·) := by
  induction items with
  | nil => rfl
  | cons v rest ih =>
    show (newline depth ++ textAt depth v) :: itemTexts depth rest = _
    rw [ih]
    rfl

/-- The text of the member `m`. -/
def memberText (depth : Nat) (m : String × Json) : String :=
  stringText m.1 ++ (": " ++ textAt depth m.2)

theorem toList_memberText (depth : Nat) (m : String × Json) :
    (memberText depth m).toList = memberChars depth m := by
  rw [memberText, String.toList_append, toList_stringText, String.toList_append]
  simp [memberChars, toList_textAt]

/-- `memberTexts` as a `map`, for the induction on members. -/
theorem memberTexts_eq (depth : Nat) (members : List (String × Json)) :
    memberTexts depth members = (members.map (memberText depth)).map (newline depth ++ ·) := by
  induction members with
  | nil => rfl
  | cons m rest ih =>
    show (newline depth ++ stringText m.1 ++ ": " ++ textAt depth m.2) :: memberTexts depth rest = _
    rw [ih, String.append_assoc, String.append_assoc]
    rfl

/-- The characters of `null`. -/
theorem chars_null (depth : Nat) : chars depth null = ['n', 'u', 'l', 'l'] := by
  show "null".toList = _
  rfl

theorem chars_true (depth : Nat) : chars depth (bool true) = ['t', 'r', 'u', 'e'] := by
  show "true".toList = _
  rfl

theorem chars_false (depth : Nat) : chars depth (bool false) = ['f', 'a', 'l', 's', 'e'] := by
  show "false".toList = _
  rfl

theorem chars_int (depth : Nat) (n : Int) :
    chars depth (int n) = (Number.intText n).toList := rfl

/-- The characters of a number that is not whole are those of `floatText`. -/
theorem chars_float (depth : Nat) (x : Number.Binary64) :
    chars depth (float x) = (floatText x).toList := rfl

theorem chars_string (depth : Nat) (s : String) :
    chars depth (string s) = '"' :: (s.toList.flatMap escaped ++ ['"']) :=
  toList_stringText s

theorem chars_array_nil (depth : Nat) : chars depth (array []) = ['[', ']'] := by
  show "[]".toList = _
  rfl

theorem chars_object_nil (depth : Nat) : chars depth (object []) = ['\x7b', '\x7d'] := by
  show "\x7b\x7d".toList = _
  rfl

/-- The characters of a list that is not empty: between its brackets the first item, the lines after
    it (`linesAfter`), and a new line. -/
theorem chars_array (depth : Nat) (v : Json) (items : List Json) :
    chars depth (array (v :: items)) =
      '[' :: ((newline (depth + 1)).toList ++ (chars (depth + 1) v ++
        (linesAfter (depth + 1) (items.map (chars (depth + 1))) ++
          ((newline depth).toList ++ [']'])))) := by
  show ("[" ++ String.intercalate "," (itemTexts (depth + 1) (v :: items)) ++ newline depth ++
    "]").toList = _
  rw [itemTexts_eq, List.map_cons]
  simp only [String.toList_append, toList_intercalate_lines, List.map_map]
  simp [Function.comp_def, toList_textAt]

/-- The characters of an object that is not empty, as `chars_array` for members. -/
theorem chars_object (depth : Nat) (m : String × Json) (members : List (String × Json)) :
    chars depth (object (m :: members)) =
      '\x7b' :: ((newline (depth + 1)).toList ++ (memberChars (depth + 1) m ++
        (linesAfter (depth + 1) (members.map (memberChars (depth + 1))) ++
          ((newline depth).toList ++ ['\x7d'])))) := by
  show ("\x7b" ++ String.intercalate "," (memberTexts (depth + 1) (m :: members)) ++
    newline depth ++ "\x7d").toList = _
  rw [memberTexts_eq, List.map_cons]
  simp only [String.toList_append, toList_intercalate_lines, List.map_map]
  simp [Function.comp_def, toList_memberText]

/-! ## How values start

  The reader looks at the first character of a value to see what it is, and at the first character
  behind a bracket to see whether the list is empty. -/

/-- The text of a value begins neither with a space nor with a closing bracket, so `readItems` takes
    it for an item. -/
theorem exists_chars_eq_cons (depth : Nat) (v : Json) :
    ∃ c more, chars depth v = c :: more ∧ isSpace c = false ∧ c ≠ ']' := by
  -- numbers and words
  have hword : ∀ {cs : List Char}, (∃ c more, cs = c :: more ∧ isWordStart c = true) →
      ∃ c more, cs = c :: more ∧ isSpace c = false ∧ c ≠ ']' := by
    rintro cs ⟨c, more, hcs, hc⟩
    simp only [isWordStart, Bool.and_eq_true, Bool.not_eq_true', bne_iff_ne] at hc
    exact ⟨c, more, hcs, hc.1.1.1.1, hc.1.1.1.2⟩
  cases v with
  | null => exact hword ⟨'n', _, chars_null depth, by decide⟩
  | bool b =>
    cases b with
    | false => exact hword ⟨'f', _, chars_false depth, by decide⟩
    | true => exact hword ⟨'t', _, chars_true depth, by decide⟩
  | int n =>
    rw [chars_int]
    exact hword (exists_intText_eq_cons n)
  | float x =>
    rw [chars_float]
    exact hword (exists_floatText_eq_cons x)
  | string s => exact ⟨_, _, chars_string depth s, by decide⟩
  | array items =>
    cases items with
    | nil => exact ⟨_, _, chars_array_nil depth, by decide⟩
    | cons v items => exact ⟨_, _, chars_array depth v items, by decide⟩
  | object members =>
    cases members with
    | nil => exact ⟨_, _, chars_object_nil depth, by decide⟩
    | cons m members => exact ⟨_, _, chars_object depth m members, by decide⟩

theorem skipSpace_space_chars (depth : Nat) (v : Json) (rest : List Char) :
    skipSpace (' ' :: (chars depth v ++ rest)) = chars depth v ++ rest := by
  obtain ⟨c, more, hv, hc, -⟩ := exists_chars_eq_cons depth v
  rw [hv]
  exact skipSpace_cons hc _

theorem skipSpace_newline_chars (outer depth : Nat) (v : Json) (rest : List Char) :
    skipSpace ((newline outer).toList ++ (chars depth v ++ rest)) = chars depth v ++ rest := by
  obtain ⟨c, more, hv, hc, -⟩ := exists_chars_eq_cons depth v
  rw [hv]
  exact skipSpace_newline outer hc _

/-! ## Reading values

  `ReadsBack` is what is to be shown of each value: with enough fuel it is read back from the front
  of any text that goes on in a way a value can be followed. -/

/-- Whatever comes after it, the value `v` is read where it is written, with fuel for its length. -/
def ReadsBack (v : Json) : Prop :=
  ∀ (depth fuel : Nat) (rest : List Char), Ends rest → (chars depth v).length ≤ fuel →
    readValue fuel (chars depth v ++ rest) = .ok (v, rest)

/-- What begins as a number or a word does is left to `readScalar`. -/
theorem readValue_word {c : Char} (hc : isWordStart c = true) (fuel : Nat) (cs : List Char) :
    readValue (fuel + 1) (c :: cs) = readScalar (c :: cs) := by
  rw [readValue.eq_def]
  dsimp only
  split
  case h_4 => rfl
  all_goals
    rename_i heq
    cases heq
    exact absurd hc (by decide)

/-- A number or a word is read as by `readScalar`. -/
theorem readsBack_of_readScalar {v : Json}
    (hstart : ∀ depth, ∃ c more, chars depth v = c :: more ∧ isWordStart c = true)
    (hread : ∀ depth rest, Ends rest → readScalar (chars depth v ++ rest) = .ok (v, rest)) :
    ReadsBack v := by
  intro depth fuel rest hr hfuel
  obtain ⟨c, more, hv, hc⟩ := hstart depth
  have hread' := hread depth rest hr
  rw [hv] at hfuel hread' ⊢
  cases fuel with
  | zero => cases hfuel
  | succ fuel => rw [List.cons_append, readValue_word hc, ← List.cons_append, hread']

/-- A string is read back, by `readString_escaped`. -/
theorem readsBack_string (s : String) : ReadsBack (string s) := by
  intro depth fuel rest hr hfuel
  rw [chars_string] at hfuel ⊢
  cases fuel with
  | zero => cases hfuel
  | succ fuel =>
    have hread := readString_escaped s rest
    rw [List.cons_append, List.append_assoc, readValue.eq_def]
    simp [hread, Except.map]

/-! ## Reading lists

  The items are read one by one, each by the induction hypothesis for it, up to the closing bracket.
  An empty list is written without line breaks. -/

theorem readItems_last {fuel : Nat} {cs rest more : List Char} {v : Json}
    (hv : readValue fuel cs = .ok (v, rest)) (hs : skipSpace rest = ']' :: more)
    (acc : List Json) : readItems (fuel + 1) acc cs = .ok (.array (acc.reverse ++ [v]), more) := by
  rw [readItems, hv]
  simp [hs]

theorem readItems_next {fuel : Nat} {cs rest more : List Char} {v : Json}
    (hv : readValue fuel cs = .ok (v, rest)) (hs : skipSpace rest = ',' :: more)
    (acc : List Json) :
    readItems (fuel + 1) acc cs = readItems fuel (v :: acc) (skipSpace more) := by
  rw [readItems, hv]
  simp [hs]

/-- **Items on lines of their own are read one after another.** By induction on the items behind the
    first, with those that were read so far in `acc`; each line takes fuel for its own
    characters. -/
theorem readItems_lines {v : Json} {items : List Json} (hv : ∀ x ∈ v :: items, ReadsBack x)
    (acc : List Json) (inner outer fuel : Nat) (rest : List Char)
    (hfuel : (chars inner v ++ linesAfter inner (items.map (chars inner))).length < fuel) :
    readItems fuel acc (chars inner v ++ (linesAfter inner (items.map (chars inner)) ++
        ((newline outer).toList ++ ']' :: rest))) =
      .ok (.array (acc.reverse ++ v :: items), rest) := by
  induction items generalizing v acc fuel with
  | nil =>
    -- the closing bracket stands on the next line
    rw [List.length_append] at hfuel
    obtain ⟨fuel, rfl⟩ : ∃ n, fuel = n + 1 := ⟨fuel - 1, by omega⟩
    have hread := hv v List.mem_cons_self inner fuel _ (ends_newline outer (']' :: rest)) (by omega)
    exact readItems_last hread (skipSpace_newline outer (by decide) rest) acc
  | cons w items ih =>
    -- a comma follows, and the fuel that is left covers the other lines
    rw [List.map_cons, linesAfter_cons] at hfuel ⊢
    simp only [List.length_append, List.length_cons] at hfuel
    obtain ⟨fuel, rfl⟩ : ∃ n, fuel = n + 1 := ⟨fuel - 1, by omega⟩
    have hread := fun after =>
      hv v List.mem_cons_self inner fuel (',' :: after) (ends_comma after) (by omega)
    have hnext := ih (List.forall_mem_cons.1 hv).2 (v :: acc) fuel (by
      rw [List.length_append]
      omega)
    rw [List.cons_append, readItems_next (hread _) (skipSpace_cons (by decide) _) acc,
      List.append_assoc, List.append_assoc, skipSpace_newline_chars, hnext, List.reverse_cons,
      List.append_assoc]
    rfl

/-- A list that is not empty is left to `readItems`. -/
theorem readValue_bracket {fuel : Nat} {c : Char} {cs body : List Char}
    (hs : skipSpace cs = c :: body) (hc : c ≠ ']') :
    readValue (fuel + 1) ('[' :: cs) = readItems fuel [] (c :: body) := by
  rw [readValue.eq_def]
  simp only [hs]
  split
  · rename_i heq
    cases heq
    exact absurd rfl hc
  · rfl

/-- A list is read back if its items are, by `readItems_lines`. -/
theorem readsBack_array {items : List Json} (hv : ∀ x ∈ items, ReadsBack x) :
    ReadsBack (array items) := by
  intro depth fuel rest hr hfuel
  cases items with
  | nil =>
    rw [chars_array_nil] at hfuel ⊢
    obtain ⟨fuel, rfl⟩ := Nat.exists_eq_add_of_lt hfuel
    rw [readValue.eq_def]
    rfl
  | cons v items =>
    rw [chars_array] at hfuel ⊢
    simp only [List.length_cons, List.length_append] at hfuel
    obtain ⟨fuel, rfl⟩ : ∃ n, fuel = n + 1 := ⟨fuel - 1, by omega⟩
    have hitems := readItems_lines hv [] (depth + 1) depth fuel rest (by
      rw [List.length_append]
      omega)
    -- the first item does not look like a closing bracket
    obtain ⟨c, more, hc, hspace, hne⟩ := exists_chars_eq_cons (depth + 1) v
    rw [hc, List.cons_append] at hitems
    simp only [List.cons_append, List.append_assoc, hc, List.nil_append]
    rw [readValue_bracket (skipSpace_newline _ hspace _) hne, hitems]
    rfl

/-! ## Reading objects

  The members are read like items, behind their keys.  They are put into an object one by one, and
  as no key comes twice they stay in their order (`put_of_nodup`). -/

theorem put_of_not_mem {members : List (String × Json)} {key : String}
    (h : key ∉ members.map (·.1)) (v : Json) : put members key v = members ++ [(key, v)] := by
  induction members with
  | nil => rfl
  | cons m rest ih =>
    rw [List.map_cons, List.mem_cons, not_or] at h
    rw [put, if_neg (by simpa using Ne.symm h.1), ih h.2, List.cons_append]

/-- A member with a key of its own is put by `put` at the end. -/
theorem put_of_nodup {acc members : List (String × Json)} {m : String × Json}
    (h : ((acc ++ m :: members).map (·.1)).Nodup) : put acc m.1 m.2 = acc ++ [m] := by
  rw [List.map_append, List.map_cons, List.nodup_append] at h
  exact put_of_not_mem (fun hm => h.2.2 _ hm _ List.mem_cons_self rfl) m.2

theorem memberChars_append (depth : Nat) (m : String × Json) (rest : List Char) :
    memberChars depth m ++ rest =
      '"' :: (m.1.toList.flatMap escaped ++ '"' :: ':' :: ' ' :: (chars depth m.2 ++ rest)) := by
  rw [memberChars, List.cons_append, List.append_assoc]
  rfl

theorem skipSpace_colon (cs : List Char) : skipSpace (':' :: cs) = ':' :: cs :=
  skipSpace_cons (by decide) cs

theorem readMembers_last {fuel depth : Nat} {m : String × Json} {rest more : List Char}
    (hv : readValue fuel (chars depth m.2 ++ rest) = .ok (m.2, rest))
    (hs : skipSpace rest = '\x7d' :: more) (acc : List (String × Json)) :
    readMembers (fuel + 1) acc (memberChars depth m ++ rest) =
      .ok (.object (put acc m.1 m.2), more) := by
  rw [memberChars_append, readMembers.eq_def]
  simp only [readString_escaped, skipSpace_colon, skipSpace_space_chars, hv, hs]

theorem readMembers_next {fuel depth : Nat} {m : String × Json} {rest more : List Char}
    (hv : readValue fuel (chars depth m.2 ++ rest) = .ok (m.2, rest))
    (hs : skipSpace rest = ',' :: more) (acc : List (String × Json)) :
    readMembers (fuel + 1) acc (memberChars depth m ++ rest) =
      readMembers fuel (put acc m.1 m.2) (skipSpace more) := by
  rw [memberChars_append, readMembers.eq_def]
  simp only [readString_escaped, skipSpace_colon, skipSpace_space_chars, hv, hs]

/-- The value of a member is shorter than the member, so `fuel` for the member is fuel for its
    value. -/
theorem length_chars_lt (depth : Nat) (m : String × Json) :
    (chars depth m.2).length < (memberChars depth m).length := by
  simp only [memberChars, List.length_cons, List.length_append]
  omega

theorem skipSpace_newline_memberChars (outer depth : Nat) (m : String × Json)
    (rest : List Char) :
    skipSpace ((newline outer).toList ++ (memberChars depth m ++ rest)) =
      memberChars depth m ++ rest := by
  rw [memberChars_append]
  exact skipSpace_newline outer (by decide) _

/-- **Members on lines of their own are read one after another**, as `readItems_lines`; since their
    keys differ, each is put at the end (`put_of_nodup`). -/
theorem readMembers_lines {m : String × Json} {members : List (String × Json)}
    (acc : List (String × Json))
    (hv : ∀ x ∈ m :: members, ReadsBack x.2)
    (hkeys : ((acc ++ m :: members).map (·.1)).Nodup) (inner outer fuel : Nat) (rest : List Char)
    (hfuel : (memberChars inner m ++
      linesAfter inner (members.map (memberChars inner))).length < fuel) :
    readMembers fuel acc (memberChars inner m ++
        (linesAfter inner (members.map (memberChars inner)) ++
          ((newline outer).toList ++ '\x7d' :: rest))) =
      .ok (.object (acc ++ m :: members), rest) := by
  induction members generalizing m acc fuel with
  | nil =>
    have hput : put acc m.1 m.2 = acc ++ [m] := put_of_nodup hkeys
    have hvalue := length_chars_lt inner m
    rw [List.length_append] at hfuel
    obtain ⟨fuel, rfl⟩ : ∃ n, fuel = n + 1 := ⟨fuel - 1, by omega⟩
    have hread := hv m List.mem_cons_self inner fuel _ (ends_newline outer ('\x7d' :: rest))
      (by omega)
    rw [← hput]
    exact readMembers_last hread (skipSpace_newline outer (by decide) rest) acc
  | cons n members ih =>
    -- the key is a new one, so the member goes behind those read before
    have hput : put acc m.1 m.2 = acc ++ [m] := put_of_nodup hkeys
    have hvalue := length_chars_lt inner m
    rw [List.map_cons, linesAfter_cons] at hfuel ⊢
    simp only [List.length_append, List.length_cons] at hfuel
    obtain ⟨fuel, rfl⟩ : ∃ n, fuel = n + 1 := ⟨fuel - 1, by omega⟩
    have hread := fun after =>
      hv m List.mem_cons_self inner fuel (',' :: after) (ends_comma after) (by omega)
    have hnext := ih (acc ++ [m]) (List.forall_mem_cons.1 hv).2 (by
      rw [List.append_assoc]
      exact hkeys) fuel (by
      rw [List.length_append]
      omega)
    rw [List.cons_append, readMembers_next (hread _) (skipSpace_cons (by decide) _) acc,
      List.append_assoc, List.append_assoc, skipSpace_newline_memberChars, hput, hnext,
      List.append_assoc]
    rfl

/-- An object that is not empty is left to `readMembers`. -/
theorem readValue_brace {fuel : Nat} {cs body : List Char} (hs : skipSpace cs = '"' :: body) :
    readValue (fuel + 1) ('\x7b' :: cs) = readMembers fuel [] ('"' :: body) := by
  rw [readValue.eq_def]
  simp only [hs]
  rfl

/-- An object is read back if the values of its members are and its keys differ, by
    `readMembers_lines`. -/
theorem readsBack_object {members : List (String × Json)}
    (hkeys : (members.map (·.1)).Nodup) (hv : ∀ m ∈ members, ReadsBack m.2) :
    ReadsBack (object members) := by
  intro depth fuel rest hr hfuel
  cases members with
  | nil =>
    rw [chars_object_nil] at hfuel ⊢
    obtain ⟨fuel, rfl⟩ := Nat.exists_eq_add_of_lt hfuel
    rw [readValue.eq_def]
    rfl
  | cons m members =>
    rw [chars_object] at hfuel ⊢
    simp only [List.length_cons, List.length_append] at hfuel
    obtain ⟨fuel, rfl⟩ : ∃ n, fuel = n + 1 := ⟨fuel - 1, by omega⟩
    have hmembers := readMembers_lines [] hv hkeys (depth + 1) depth fuel rest (by
      rw [List.length_append]
      omega)
    simp only [List.cons_append, List.append_assoc, List.nil_append,
      memberChars_append (depth + 1) m] at hmembers ⊢
    rw [readValue_brace (skipSpace_newline _ (by decide) _), hmembers]

/-! ## Whole numbers that can be written

  Values are written if all their whole numbers can be; for lists and objects that is said of their
  items and members. -/

theorem writable_int (n : Int) : (int n).writable = Number.isWritable n := by
  rw [writable]

theorem writable_array (items : List Json) :
    (array items).writable = true ↔ ∀ v ∈ items, v.writable = true := by
  rw [writable]
  induction items with
  | nil => simp [writableItems]
  | cons v rest ih => rw [writableItems, Bool.and_eq_true, ih, List.forall_mem_cons]

/-- An `object` can be written exactly if the value of each of its members can. -/
theorem writable_object (members : List (String × Json)) :
    (object members).writable = true ↔ ∀ m ∈ members, m.2.writable = true := by
  rw [writable]
  induction members with
  | nil => simp [writableMembers]
  | cons m rest ih => rw [writableMembers, Bool.and_eq_true, ih, List.forall_mem_cons]

/-! ## Reading whole texts

  The induction over all values, by `inductionOn`, which gives a hypothesis for every item and every
  member. -/

/-- A word is read back by `readScalar`, at every depth alike. -/
theorem readsBack_word {v : Json} {c : Char} {more : List Char} (hc : isWordStart c = true)
    (hv : ∀ depth, chars depth v = c :: more)
    (hread : ∀ rest, readScalar (c :: more ++ rest) = .ok (v, rest)) : ReadsBack v :=
  readsBack_of_readScalar (fun depth => ⟨c, more, hv depth, hc⟩)
    fun depth rest _ => (hv depth).symm ▸ hread rest

/-- A whole number that can be written is read back (`readScalar_intText`). -/
theorem readsBack_int {n : Int} (hn : Number.isWritable n = true) : ReadsBack (int n) := by
  refine readsBack_of_readScalar (fun depth => ?_) fun depth rest hr => ?_
  · rw [chars_int]
    exact exists_intText_eq_cons n
  · rw [chars_int]
    exact readScalar_intText hn hr

/-- A number that is not whole is read back (`readScalar_floatText`). -/
theorem readsBack_float (x : Number.Binary64) : ReadsBack (float x) := by
  refine readsBack_of_readScalar (fun depth => ?_) fun depth rest hr => ?_
  · rw [chars_float]
    exact exists_floatText_eq_cons x
  · rw [chars_float]
    exact readScalar_floatText x hr

/-- A property `P` of all values, if lists and objects have it when all that is inside has it. -/
@[elab_as_elim]
theorem inductionOn {P : Json → Prop} (v : Json) (null : P null) (bool : ∀ b, P (bool b))
    (int : ∀ n, P (int n)) (float : ∀ x, P (float x)) (string : ∀ s, P (string s))
    (array : ∀ items, (∀ v ∈ items, P v) → P (array items))
    (object : ∀ members, (∀ m ∈ members, P m.2) → P (object members)) : P v :=
  match v with
  | .null => null
  | .bool b => bool b
  | .int n => int n
  | .float x => float x
  | .string s => string s
  | .array items => array items fun v hv =>
    have := List.sizeOf_lt_of_mem hv
    inductionOn v null bool int float string array object
  | .object members => object members fun (key, v) hm =>
    have hpair : sizeOf (key, v) = 1 + sizeOf key + sizeOf v := Prod.mk.sizeOf_spec key v
    have hlt := List.sizeOf_lt_of_mem hm
    have : sizeOf v < sizeOf members := by omega
    inductionOn v null bool int float string array object

/-- **A value is read where it is written**: by `inductionOn`, each kind of value by its own
    lemma. -/
theorem readsBack {v : Json} (hk : v.WellKeyed) (hw : v.writable = true) : ReadsBack v := by
  induction v using inductionOn with
  | null => exact readsBack_word (by decide) chars_null fun _ => rfl
  | bool b =>
    cases b with
    | false => exact readsBack_word (by decide) chars_false fun _ => rfl
    | true => exact readsBack_word (by decide) chars_true fun _ => rfl
  | int n =>
    rw [writable_int] at hw
    exact readsBack_int hw
  | float x => exact readsBack_float x
  | string s => exact readsBack_string s
  | array items ih =>
    rw [wellKeyed_array] at hk
    rw [writable_array] at hw
    exact readsBack_array fun v hv => ih v hv (hk v hv) (hw v hv)
  | object members ih =>
    rw [wellKeyed_object] at hk
    rw [writable_object] at hw
    exact readsBack_object hk.1 fun m hm => ih m hm (hk.2 m hm) (hw m hm)

/-- **The text of a value is read as the value**: `readsBack` at depth zero, with nothing behind
    it. -/
theorem read_text {v : Json} (hk : v.WellKeyed) (hw : v.writable = true) :
    read v.text = .ok v := by
  have hread := readsBack hk hw 0 (v.text.toList.length + 1) [] ends_nil (Nat.le_succ _)
  obtain ⟨c, more, hv, hc, -⟩ := exists_chars_eq_cons 0 v
  have hstart : skipSpace v.text.toList = v.text.toList := by
    change v.text.toList = _ at hv
    rw [hv]
    exact skipSpace_cons hc more
  rw [List.append_nil] at hread
  change readValue _ v.text.toList = _ at hread
  rw [read, hstart, hread]
  rfl

end PrinterConsole.Json
