/-
  Submitted forms: named fields with a text each.

  A field may also be present without a text.  A form read from a request keeps the last text of a
  repeated field, in the place of the first.

  `set` puts one pair into the fields and `ofPairs` all pairs of a request, in their order.  A
  form is then looked at by `field?`, which tells an absent field from one without a text, by
  `value?`, which does not, or by `has`.

  Main statements: one pair changes what is found under its own name only (`lookup_set`), and so
  the form of a list of pairs has the last value of each name (`value?_ofPairs`).
-/

namespace PrinterConsole

/-- A submission: its fields in order, each name at most once. -/
structure Form where
  fields : List (String × Option String)
  deriving DecidableEq, Repr

namespace Form

/-- The field of a name: `none` if it is absent, `some none` if it is present without a text. -/
def field? (f : Form) (name : String) : Option (Option String) := f.fields.lookup name

/-- The field `name` is present, with or without a text. -/
def has (f : Form) (name : String) : Bool := (f.field? name).isSome

/-- The text of a field; `none` if the field is absent or has no text. -/
def value? (f : Form) (name : String) : Option String := (f.field? name).join

/-- A form without any field. -/
def isEmpty (f : Form) : Bool := f.fields.isEmpty

/-- `fields` with a text for `name`: in its place if the name is there, else at the end.  Setting
    never makes a name occur twice. -/
def set (fields : List (String × Option String)) (name text : String) :
    List (String × Option String) :=
  match fields with
  | [] => [(name, some text)]
  | x :: rest => if x.1 == name then (name, some text) :: rest else x :: set rest name text

/-- The form of a list of names and texts; of a repeated name the last text counts, by a fold of
    `set`. -/
def ofPairs (pairs : List (String × String)) : Form :=
  ⟨pairs.foldl (fun fields p => set fields p.1 p.2) []⟩

/-- Looking a name up after `set`: the new text under the name that was set, and under any other
    what was there. -/
theorem lookup_set (fields : List (String × Option String)) (name text other : String) :
    (set fields name text).lookup other =
      if other = name then some (some text) else fields.lookup other := by
  induction fields with
  | nil =>
    by_cases h : other = name
    · simp [set, h]
    · simp [set, List.lookup_cons, h, beq_false_of_ne h]
  | cons x rest ih =>
    obtain ⟨key, value⟩ := x
    by_cases hk : key = name
    · subst hk
      by_cases h : other = key
      · simp [set, h]
      · simp [set, List.lookup_cons, h, beq_false_of_ne h]
    · by_cases h : other = name
      · subst h
        simp [set, hk, List.lookup_cons, beq_false_of_ne (Ne.symm hk), ih]
      · simp [set, hk, List.lookup_cons, h, ih]

/-- Each name has the last text it was given: the form answers as a lookup in the reversed `pairs`
    does, which finds the last pair first. -/
theorem value?_ofPairs (pairs : List (String × String)) (name : String) :
    (ofPairs pairs).value? name = pairs.reverse.lookup name := by
  suffices h : ∀ (fields : List (String × Option String)),
      (pairs.foldl (fun fields p => set fields p.1 p.2) fields).lookup name =
        ((pairs.reverse.lookup name).map some).or (fields.lookup name) by
    simp only [value?, field?, ofPairs, h]
    cases pairs.reverse.lookup name <;> simp
  induction pairs with
  | nil => simp
  | cons p rest ih =>
    intro fields
    obtain ⟨key, text⟩ := p
    rw [List.foldl_cons, ih, lookup_set, List.reverse_cons, List.lookup_append]
    by_cases h : name = key
    · cases List.lookup name rest.reverse <;> simp [h]
    · cases List.lookup name rest.reverse <;>
        simp [List.lookup_cons, h, beq_false_of_ne h]

end Form

end PrinterConsole
