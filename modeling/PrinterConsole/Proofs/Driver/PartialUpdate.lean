/-
  The print defaults form is a partial update.

  Every default has a field of its own, and what a submission asks of a default (`submitted`)
  depends on nothing but that field and, for the media, on the sources and what is loaded in them,
  which no submission changes.  So the options after a submission are the options before it with
  the defaults that were submitted (`applyDefaultsForm_eq`), and everything about order, unknown
  fields and several submissions is about one default at a time: a later submission replaces what
  an earlier one put in if it submits the same default, and otherwise leaves it
  (`updated_updated`).

  The defaults are made one family for that: `current` reads all of them off the options as a
  function of `Default`, and `withDefaults` puts such a function in.  `Default.Value` is the type
  of each.

  The one failure is a number that is too long to be read, so numerals are assumed to be short
  (`HasShortNumerals`).

  Main statement: `partial_update`.
-/
import Mathlib.Data.List.Nodup
import PrinterConsole.Driver.DefaultsForm
import PrinterConsole.Driver.Profile
import PrinterConsole.Proofs.Fault

namespace PrinterConsole

open PrinterConsole.Number PrinterConsole.Text

namespace Form

/-! ## Fields by their names

  In a form that has each field once (`IsDistinct`), a lookup does not depend on the order of the
  fields.  That is why two forms with the same fields do the same. -/

/-- No two fields of the form `f` have one name. -/
def IsDistinct (f : Form) : Prop := (f.fields.map (·.1)).Nodup

instance (f : Form) : Decidable f.IsDistinct := inferInstanceAs (Decidable (List.Nodup _))

/-- The field of a name stands in the form, and if names are distinct (`IsDistinct`) it is the only
    one. -/
theorem field?_eq_some_iff {f : Form} (hf : f.IsDistinct) {name : String} {v : Option String} :
    f.field? name = some v ↔ (name, v) ∈ f.fields := by
  obtain ⟨fields⟩ := f
  unfold IsDistinct at hf
  unfold field?
  dsimp only at hf ⊢
  induction fields with
  | nil => simp
  | cons x rest ih =>
    obtain ⟨key, w⟩ := x
    rw [List.map_cons, List.nodup_cons] at hf
    by_cases hk : name = key
    · subst hk
      have hrest : (name, v) ∉ rest := fun hmem => hf.1 (List.mem_map.2 ⟨_, hmem, rfl⟩)
      simp [hrest, eq_comm]
    · simp [List.lookup_cons, beq_false_of_ne hk, hk, ih hf.2]

/-- A form `m` with the fields of two forms has a field if one of them has it; of a field in both,
    they have the same text. -/
theorem field?_of_union {f g m : Form} (hf : f.IsDistinct) (hg : g.IsDistinct) (hm : m.IsDistinct)
    {name : String}
    (h : ∀ v, (name, v) ∈ m.fields ↔ (name, v) ∈ f.fields ∨ (name, v) ∈ g.fields) :
    m.field? name = (f.field? name).or (g.field? name) := by
  have hfield : ∀ v, m.field? name = some v ↔
      f.field? name = some v ∨ g.field? name = some v := by
    intro v
    rw [field?_eq_some_iff hm, field?_eq_some_iff hf, field?_eq_some_iff hg, h]
  cases hfv : f.field? name with
  | some v => exact (hfield v).2 (.inl hfv)
  | none =>
    rw [Option.none_or]
    refine Option.ext fun v => ?_
    rw [hfield, hfv]
    simp

/-! ## Short numerals

  A numeral is refused if one of its runs of digits is longer than `maxDigits`.  With short runs
  every field is read, or ignored. -/

/-- The second number of a resolution. -/
def secondRun : List Char → List (List Nat)
  | 'x' :: more => ((leadingDigits more).map fun n => n.1.2).toList
  | _ => []

/-- The digit runs that are read at the start of a text: that of a number, and a second one after an
    `x`. -/
def digitRuns (text : String) : List (List Nat) :=
  match leadingDigits (trimStart text.toList) with
  | none => []
  | some (n, rest) => n.2 :: secondRun rest

/-- There are digits where `leadingDigits` finds a numeral. -/
theorem ne_nil_of_leadingDigits {cs rest : List Char} {n : Bool × List Nat}
    (h : leadingDigits cs = some (n, rest)) : n.2 ≠ [] := by
  unfold leadingDigits at h
  dsimp only at h
  split at h
  · cases h
  · rename_i ds _ hne _
    cases h
    rintro rfl
    simp_all

/-- A short numeral is a number; that there is a digit is `ne_nil_of_leadingDigits`. -/
theorem exists_numberOf {cs rest : List Char} {n : Bool × List Nat}
    (h : leadingDigits cs = some (n, rest)) (hshort : n.2.length ≤ maxDigits) :
    ∃ k, numberOf n = .ok k := by
  unfold numberOf wholeOf
  have hne : n.2.isEmpty = false := by simpa using ne_nil_of_leadingDigits h
  have hlong : ¬ maxDigits < n.2.length := by omega
  simp only [hne, Bool.false_or, decide_eq_true_eq, if_neg hlong]
  exact ⟨_, rfl⟩

/-- Short first runs are converted: only a run of more than `maxDigits` is refused. -/
theorem exists_leadingInt {text : String}
    (h : ∀ run ∈ (digitRuns text).take 1, run.length ≤ maxDigits) : ∃ r, leadingInt text = .ok r := by
  unfold digitRuns at h
  unfold leadingInt
  cases hd : leadingDigits (trimStart text.toList) with
  | none => exact ⟨none, rfl⟩
  | some found =>
    obtain ⟨n, rest⟩ := found
    obtain ⟨k, hk⟩ := exists_numberOf hd (h n.2 (by simp [hd]))
    exact ⟨some k, by simp only [hk, Except.map]⟩

/-- A `resolution` of short numerals is read. -/
theorem exists_resolution {text : String} (h : ∀ run ∈ digitRuns text, run.length ≤ maxDigits) :
    ∃ r, resolution text = .ok r := by
  unfold digitRuns at h
  unfold resolution
  cases hd : leadingDigits (trimStart text.toList) with
  | none => exact ⟨none, rfl⟩
  | some found =>
    obtain ⟨n, rest⟩ := found
    simp only [hd, List.forall_mem_cons] at h
    obtain ⟨hn, hsecond⟩ := h
    obtain ⟨x, hx⟩ := exists_numberOf hd hn
    simp only [hx, ok_bind]
    split
    · rename_i more
      split
      · rename_i m _ hm
        obtain ⟨y, hy⟩ := exists_numberOf hm (hsecond m.2 (by simp [secondRun, hm]))
        exact ⟨some (x, y), by simp only [hy, ok_bind]; rfl⟩
      · exact ⟨_, rfl⟩
    · exact ⟨_, rfl⟩

end Form

namespace DriverOptions

/-! ## Defaults one by one

  The ten defaults are looked at as a family: `current` reads one of them, `withDefaults` sets all
  of them at once, and what a form asks for one of them is `submitted`. -/

/-- All of `Default`, in the order in which they are written. -/
def Default.all : List Default :=
  [.orientation, .color, .content, .darkness, .quality, .scaling, .speed, .sides, .resolution,
    .media]

/-- The field that a `Default` is submitted in. -/
def Default.fieldName : Default → String
  | .orientation => "orientation-requested"
  | .color => "print-color-mode"
  | .content => "print-content-optimize"
  | .darkness => "print-darkness"
  | .quality => "print-quality"
  | .scaling => "print-scaling"
  | .speed => "print-speed"
  | .sides => "sides"
  | .resolution => "printer-resolution"
  | .media => "media-source"

/-- What a `Default` is a choice of. -/
abbrev Default.Value : Default → Type
  | .orientation | .darkness | .quality | .speed => Int
  | .color => ColorMode
  | .content => Content
  | .scaling => Scaling
  | .sides => Sides
  | .resolution => Int × Int
  | .media => LoadedMedia

/-- The value of a `Default` in the options `o`. -/
def current (o : DriverOptions) : (d : Default) → d.Value
  | .orientation => o.orientationDefault
  | .color => o.colorDefault
  | .content => o.contentDefault
  | .darkness => o.darknessConfigured
  | .quality => o.qualityDefault
  | .scaling => o.scalingDefault
  | .speed => o.speedDefault
  | .sides => o.sidesDefault
  | .resolution => (o.xDefault, o.yDefault)
  | .media => o.mediaDefault

/-- The options `o` with the defaults `v`. -/
def withDefaults (o : DriverOptions) (v : (d : Default) → d.Value) : DriverOptions :=
  { o with
    orientationDefault := v .orientation
    colorDefault := v .color
    contentDefault := v .content
    darknessConfigured := v .darkness
    qualityDefault := v .quality
    scalingDefault := v .scaling
    speedDefault := v .speed
    sidesDefault := v .sides
    xDefault := (v .resolution).1
    yDefault := (v .resolution).2
    mediaDefault := v .media }

/-- What was put in is what is read: `withDefaults` sets each default and `current` reads it. -/
@[simp]
theorem current_withDefaults (o : DriverOptions) (v : (d : Default) → d.Value) :
    (o.withDefaults v).current = v := by
  funext d
  cases d <;> rfl

@[simp]
theorem withDefaults_withDefaults (o : DriverOptions) (v w : (d : Default) → d.Value) :
    (o.withDefaults v).withDefaults w = o.withDefaults w := rfl

/-- How the field of a `Default` is read: numbers and keywords by themselves, a source among those
    of the options. -/
def Default.read (o : DriverOptions) : (d : Default) → Option String → Option d.Value
  | .orientation, text | .darkness, text => text.bind number?
  | .speed, text => (text.bind number?).map (· * speedScale)
  | .color, text => text.bind (Vocabulary.ofKeyword? (α := ColorMode))
  | .content, text => text.bind (Vocabulary.ofKeyword? (α := Content))
  | .scaling, text => text.bind (Vocabulary.ofKeyword? (α := Scaling))
  | .sides, text => text.bind (Vocabulary.ofKeyword? (α := Sides))
  | .quality, text => (text.bind (Vocabulary.ofKeyword? (α := Quality))).map fun q =>
      (Vocabulary.code q : Int)
  | .resolution, text => text.bind fun t => (Form.resolution t).toOption.join
  | .media, text => (o.sourceIndex? (text.elim .null .string)).bind fun i => o.mediaReady[i]?
where
  number? (text : String) : Option Int := (Form.leadingInt text).toOption.join

/-- What a form asks of a default: its field is there, and it reads as something
    (`Default.read`). -/
def submitted (f : Form) (o : DriverOptions) (d : Default) : Option d.Value :=
  (f.field? d.fieldName).bind (d.read o)

/-- The digit runs that are read in the field of a `Default`. -/
def Default.digitRuns (text : String) : Default → List (List Nat)
  | .orientation | .darkness | .speed => (Form.digitRuns text).take 1
  | .resolution => Form.digitRuns text
  | _ => []

/-- No number that the print defaults form reads has more than `maxDigits` digits. -/
def HasShortNumerals (f : Form) : Prop :=
  ∀ d : Default, ∀ text ∈ f.value? d.fieldName, ∀ run ∈ d.digitRuns text, run.length ≤ maxDigits

/-- The options `o` with the defaults that the form `f` submits, and the others as they are. -/
def updated (f : Form) (o : DriverOptions) : DriverOptions :=
  o.withDefaults fun d => (submitted f o d).getD (o.current d)

/-- The defaults that a form submits, in the order of `Default.all`. -/
def named (f : Form) (o : DriverOptions) : List Default :=
  Default.all.filter fun d => (submitted f o d).isSome

/-! ## One submission

  The program reads all fields into a record of changes and then makes them.  Here that is brought
  into the form of the family above: `applyDefaultsForm_eq`. -/

theorem value?_bind {α : Type} (f : Form) (name : String) (read : String → Option α) :
    (f.value? name).bind read = (f.field? name).bind fun field => field.bind read := by
  unfold Form.value?
  rcases f.field? name with _ | _ | text <;> rfl

/-- With a short first run of digits the numeral is not refused, and `wholeField` is the reading of
    the field. -/
theorem wholeField_eq {f : Form} (name : String)
    (h : ∀ text ∈ f.value? name, ∀ run ∈ (Form.digitRuns text).take 1, run.length ≤ maxDigits) :
    DefaultsChange.wholeField f name =
      .ok ((f.field? name).bind fun field => field.bind Default.read.number?) := by
  rw [← value?_bind]
  unfold DefaultsChange.wholeField
  cases hf : f.value? name with
  | none => rfl
  | some text =>
    obtain ⟨r, hr⟩ := Form.exists_leadingInt (h text hf)
    simp only [hr, Option.bind_some, Default.read.number?, Except.toOption, Option.join_some]

/-- With short runs of digits no numeral is refused, and `resolutionField` is the reading of the
    field. -/
theorem resolutionField_eq {f : Form}
    (h : ∀ text ∈ f.value? "printer-resolution", ∀ run ∈ Form.digitRuns text,
      run.length ≤ maxDigits) :
    DefaultsChange.resolutionField f =
      .ok ((f.field? "printer-resolution").bind fun field =>
        field.bind fun text => (Form.resolution text).toOption.join) := by
  rw [← value?_bind]
  unfold DefaultsChange.resolutionField
  cases hf : f.value? "printer-resolution" with
  | none => rfl
  | some text =>
    obtain ⟨r, hr⟩ := Form.exists_resolution (h text hf)
    simp only [hr, Option.bind_some, Except.toOption, Option.join_some]

/-- The change that a form asks for is what it has `submitted` of each default, the media apart,
    which need the options. -/
theorem ofForm_eq {f : Form} (hf : HasShortNumerals f) (o : DriverOptions) :
    DefaultsChange.ofForm f = .ok
      { orientation := submitted f o .orientation
        color := submitted f o .color
        content := submitted f o .content
        darkness := submitted f o .darkness
        quality := DefaultsChange.keywordField f "print-quality"
        scaling := submitted f o .scaling
        speed := submitted f o .speed
        sides := submitted f o .sides
        resolution := submitted f o .resolution
        source := (f.field? "media-source").map fun field => field.elim .null .string } := by
  have hspeed : submitted f o .speed =
      ((f.field? "print-speed").bind fun field => field.bind Default.read.number?).map
        (· * speedScale) := by
    rw [Option.map_bind]
    rfl
  have hkeyword : ∀ {α : Type} [Vocabulary α] (name : String),
      DefaultsChange.keywordField f name =
        (f.field? name).bind fun field => field.bind (Vocabulary.ofKeyword? (α := α)) :=
    fun name => value?_bind f name _
  rw [hspeed]
  unfold DefaultsChange.ofForm
  rw [wholeField_eq "orientation-requested" (hf .orientation),
    wholeField_eq "print-darkness" (hf .darkness), wholeField_eq "print-speed" (hf .speed),
    resolutionField_eq (hf .resolution)]
  simp only [ok_bind, hkeyword]
  rfl

/-- The `submitted` quality is the code of the one that is named, as a quality is kept by its
    code. -/
theorem submitted_quality (f : Form) (o : DriverOptions) :
    submitted f o .quality = (DefaultsChange.keywordField (α := Quality) f "print-quality").map
      fun q => (Vocabulary.code q : Int) := by
  unfold DefaultsChange.keywordField
  rw [value?_bind, Option.map_bind]
  rfl

theorem exists_ready {o : DriverOptions} (ho : o.Aligned) {source : Json} {i : Nat}
    (h : o.sourceIndex? source = some i) : ∃ m, o.mediaReady[i]? = some m := by
  obtain ⟨hi, -, -⟩ := List.findIdx?_eq_some_iff_getElem.1 h
  have hready : i < o.mediaReady.length := by
    rw [ho]
    exact hi
  exact ⟨_, List.getElem?_eq_getElem hready⟩

/-- **The media are `submitted` by a source of the options**, and by nothing else. -/
theorem isSome_submitted_media {f : Form} {o : DriverOptions} (ho : o.Aligned) :
    (submitted f o .media).isSome ↔
      ∃ field, f.field? "media-source" = some field ∧
        (o.sourceIndex? (field.elim .null .string)).isSome := by
  show ((f.field? "media-source").bind (Default.read o .media)).isSome ↔ _
  cases f.field? "media-source" with
  | none => simp
  | some field =>
    simp only [Option.bind_some, Option.some.injEq, exists_eq_left']
    show ((o.sourceIndex? (field.elim .null .string)).bind fun i => o.mediaReady[i]?).isSome ↔ _
    cases hi : o.sourceIndex? (field.elim .null .string) with
    | none => simp
    | some i =>
      obtain ⟨m, hm⟩ := exists_ready ho hi
      simp [hm]

/-- The media that a change `c` puts in are those that the form submits. -/
theorem mediaFor_eq {f : Form} {o : DriverOptions} (ho : o.Aligned) {c : DefaultsChange}
    (hc : c.source = (f.field? "media-source").map fun field => field.elim .null .string) :
    c.mediaFor o = .ok (submitted f o .media) := by
  have hsubmitted : submitted f o .media =
      (c.source.bind o.sourceIndex?).bind fun i => o.mediaReady[i]? := by
    rw [hc]
    show (f.field? "media-source").bind _ = _
    cases f.field? "media-source" <;> rfl
  rw [hsubmitted]
  unfold DefaultsChange.mediaFor
  cases hsource : c.source.bind o.sourceIndex? with
  | none => rfl
  | some i =>
    obtain ⟨source, -, hi⟩ := Option.bind_eq_some_iff.1 hsource
    obtain ⟨m, hm⟩ := exists_ready ho hi
    simp only [hm, Option.bind_some]

/-- A filter as a list that is written piece by piece, as `DefaultsChange.written` writes its
    defaults. -/
theorem filter_cons_eq {α : Type} (p : α → Bool) (a : α) (rest : List α) :
    (a :: rest).filter p = (if p a then [a] else []) ++ rest.filter p := by
  rw [List.filter_cons]
  split <;> rfl

/-- The options after a submission, if the media that it submits are found.  They are found in two
    ways, by `applyDefaultsForm_eq` and by `applyDefaultsForm_of_no_source`. -/
theorem applyDefaultsForm_of_mediaFor {f : Form} {o : DriverOptions} (hf : HasShortNumerals f)
    (hmedia : ∀ c : DefaultsChange,
      c.source = (f.field? "media-source").map (fun field => field.elim .null .string) →
        c.mediaFor o = .ok (submitted f o .media)) :
    applyDefaultsForm f o = .ok (updated f o, named f o) := by
  unfold applyDefaultsForm
  rw [ofForm_eq hf o, ok_bind, hmedia _ rfl, ok_bind]
  congr 2
  · -- a resolution is one default for two directions
    have hx := Option.getD_map Prod.fst (o.xDefault, o.yDefault) (submitted f o .resolution)
    have hy := Option.getD_map Prod.snd (o.xDefault, o.yDefault) (submitted f o .resolution)
    unfold DefaultsChange.applyWith updated withDefaults
    simp only [submitted_quality, current]
    rw [← hx, ← hy]
  · unfold named Default.all DefaultsChange.written
    simp only [filter_cons_eq, List.filter_nil, List.append_nil, List.append_assoc,
      submitted_quality, Option.isSome_map]

/-- **The options after a submission** are those before it with the defaults that it submits
    (`updated`), and it tells which those are. -/
theorem applyDefaultsForm_eq {f : Form} {o : DriverOptions} (hf : HasShortNumerals f)
    (ho : o.Aligned) : applyDefaultsForm f o = .ok (updated f o, named f o) :=
  applyDefaultsForm_of_mediaFor hf fun _ hc => mediaFor_eq ho hc

/-- A submission without a `media-source` needs no ready media. -/
theorem applyDefaultsForm_of_no_source {f : Form} {o : DriverOptions} (hf : HasShortNumerals f)
    (hsource : f.field? "media-source" = none) :
    applyDefaultsForm f o = .ok (updated f o, named f o) := by
  refine applyDefaultsForm_of_mediaFor hf fun c hc => ?_
  have hmedia : submitted f o .media = none := by
    show (f.field? "media-source").bind _ = none
    rw [hsource, Option.bind_none]
  rw [hsource, Option.map_none] at hc
  rw [hmedia, DefaultsChange.mediaFor, hc, Option.bind_none]

/-! ## Several submissions

  What a form asks for does not depend on the defaults that it finds.  So submissions that share no
  field commute, and a form that has the fields of both does what both do. -/

/-- A default is `named` exactly if it was `submitted`. -/
theorem mem_named_iff {f : Form} {o : DriverOptions} {d : Default} :
    d ∈ named f o ↔ (submitted f o d).isSome := by
  have hall : d ∈ Default.all := by cases d <;> decide
  simp only [named, List.mem_filter, hall, true_and]

/-- What a form asks of a default depends on the field of the default alone (`Default.fieldName`),
    so forms that agree on it ask the same. -/
theorem submitted_congr {f f' : Form} {d : Default} (h : f.field? d.fieldName = f'.field? d.fieldName)
    (o : DriverOptions) : submitted f o d = submitted f' o d := by
  rw [submitted, submitted, h]

theorem submitted_withDefaults (f : Form) (o : DriverOptions) (v : (d : Default) → d.Value)
    (d : Default) : submitted f (o.withDefaults v) d = submitted f o d := by
  cases d <;> rfl

theorem aligned_withDefaults {o : DriverOptions} (ho : o.Aligned) (v : (d : Default) → d.Value) :
    (o.withDefaults v).Aligned := ho

theorem named_updated (f g : Form) (o : DriverOptions) : named g (updated f o) = named g o := by
  unfold named updated
  simp only [submitted_withDefaults]

/-- A second submission `g` has the last word on what it submits, and leaves what the first put in
    elsewhere. -/
theorem updated_updated (f g : Form) (o : DriverOptions) :
    updated g (updated f o) =
      o.withDefaults fun d => ((submitted g o d).or (submitted f o d)).getD (o.current d) := by
  unfold updated
  simp only [submitted_withDefaults, withDefaults_withDefaults, current_withDefaults]
  congr 1
  funext d
  cases submitted g o d <;> rfl

/-- Forms that share no field submit no default in common. -/
theorem submitted_eq_none_of_has {f g : Form} {d : Default}
    (h : f.has d.fieldName → g.has d.fieldName = false) (o : DriverOptions) :
    submitted f o d = none ∨ submitted g o d = none := by
  unfold Form.has at h
  unfold submitted
  cases hf : f.field? d.fieldName with
  | none => exact .inl rfl
  | some v =>
    have hg : g.field? d.fieldName = none := by simpa [hf] using h
    exact .inr (by rw [hg, Option.bind_none])

/-- A form `m` with the fields of two others that have no field of a default in common submits what
    they submit. -/
theorem submitted_of_union {f g m : Form} {d : Default}
    (hfield : m.field? d.fieldName = (f.field? d.fieldName).or (g.field? d.fieldName))
    (hdisjoint : f.has d.fieldName → g.has d.fieldName = false) (o : DriverOptions) :
    submitted m o d = (submitted f o d).or (submitted g o d) := by
  unfold Form.has at hdisjoint
  unfold submitted
  rw [hfield]
  cases hf : f.field? d.fieldName with
  | none => simp
  | some v =>
    have hg : g.field? d.fieldName = none := by simpa [hf] using hdisjoint
    rw [hg, Option.bind_none, Option.or_none, Option.or_none]

/-- Every field of the union is one of the two forms', so its runs are short as well. -/
theorem hasShortNumerals_of_union {f g m : Form} (hf : HasShortNumerals f) (hg : HasShortNumerals g)
    (hfield : ∀ d : Default,
      m.field? d.fieldName = (f.field? d.fieldName).or (g.field? d.fieldName)) :
    HasShortNumerals m := by
  intro d text htext
  have hcases : text ∈ f.value? d.fieldName ∨ text ∈ g.value? d.fieldName := by
    unfold Form.value? at htext ⊢
    rw [hfield] at htext
    cases hv : f.field? d.fieldName with
    | none => exact .inr (by simpa [hv] using htext)
    | some v => exact .inl (by simpa [hv] using htext)
  exact hcases.elim (hf d text) (hg d text)

/-- Submissions that submit no default in common may be made in either order: by `updated_updated`
    the same default is put in either way. -/
theorem updated_comm {f g : Form} {o : DriverOptions}
    (h : ∀ d, submitted f o d = none ∨ submitted g o d = none) :
    updated f (updated g o) = updated g (updated f o) := by
  rw [updated_updated, updated_updated]
  congr 1
  funext d
  rcases h d with hd | hd <;> rw [hd, Option.none_or, Option.or_none]

/-- **A submission reads the fields of the defaults and no others** (`Default.fieldName`). -/
theorem applyDefaultsForm_congr {f f' : Form} {o : DriverOptions} (hf : HasShortNumerals f)
    (ho : o.Aligned) (h : ∀ d : Default, f'.field? d.fieldName = f.field? d.fieldName) :
    applyDefaultsForm f' o = applyDefaultsForm f o := by
  have hsubmitted : submitted f' o = submitted f o := funext fun d => submitted_congr (h d) o
  have hf' : HasShortNumerals f' := by
    intro d text htext
    unfold Form.value? at htext
    rw [h] at htext
    exact hf d text htext
  rw [applyDefaultsForm_eq hf' ho, applyDefaultsForm_eq hf ho, updated, updated, named, named,
    hsubmitted]

/-- **The print defaults form is a partial update that composes.** On options whose ready media
    belong to the sources, a submission with short numerals (`HasShortNumerals`) succeeds.  It tells
    the defaults whose fields are there and are read, or match a source; these have the submitted
    values afterwards, all others are as before, and nothing besides defaults has changed.  Neither
    the order of fields nor fields of other names matter.  Submissions without a common field may be
    made in either order or as one. -/
theorem partial_update {o : DriverOptions} {f : Form} (ho : o.Aligned) (hf : HasShortNumerals f)
    (hfd : f.IsDistinct) :
    ∃ o' names, applyDefaultsForm f o = .ok (o', names) ∧
      -- the list
      names = Default.all.filter (fun d => (submitted f o d).isSome) ∧
      (Default.media ∈ names ↔ ∃ field, f.field? "media-source" = some field ∧
        (o.sourceIndex? (field.elim .null .string)).isSome) ∧
      -- the values
      (∀ d ∈ names, submitted f o d = some (o'.current d)) ∧
      (∀ d, d ∉ names → o'.current d = o.current d) ∧
      o' = o.withDefaults o'.current ∧
      -- order and other fields
      (∀ f' : Form, f'.IsDistinct →
        (∀ d : Default, ∀ v, (d.fieldName, v) ∈ f'.fields ↔ (d.fieldName, v) ∈ f.fields) →
        applyDefaultsForm f' o = .ok (o', names)) ∧
      -- composition
      ∀ g : Form, HasShortNumerals g → g.IsDistinct →
        (∀ d : Default, f.has d.fieldName → g.has d.fieldName = false) →
        ∃ both o'' others, applyDefaultsForm g o' = .ok (both, others) ∧
          applyDefaultsForm g o = .ok (o'', others) ∧
          applyDefaultsForm f o'' = .ok (both, names) ∧
          ∀ m : Form, m.IsDistinct →
            (∀ d : Default, ∀ v, (d.fieldName, v) ∈ m.fields ↔
              (d.fieldName, v) ∈ f.fields ∨ (d.fieldName, v) ∈ g.fields) →
            ∃ all, applyDefaultsForm m o = .ok (both, all) ∧
              ∀ d, d ∈ all ↔ d ∈ names ∨ d ∈ others := by
  have haligned : ∀ h : Form, (updated h o).Aligned := fun h => aligned_withDefaults ho _
  refine ⟨updated f o, named f o, applyDefaultsForm_eq hf ho, rfl, ?_, ?_, ?_, ?_, ?_, ?_⟩
  · rw [mem_named_iff, isSome_submitted_media ho]
  · intro d hd
    obtain ⟨v, hv⟩ := Option.isSome_iff_exists.1 (mem_named_iff.1 hd)
    rw [updated, current_withDefaults, hv, Option.getD_some]
  · intro d hd
    have hnone : submitted f o d = none := by
      rw [mem_named_iff] at hd
      simpa using hd
    rw [updated, current_withDefaults, hnone, Option.getD_none]
  · rw [updated, current_withDefaults]
  · intro f' hfd' hsame
    rw [← applyDefaultsForm_eq hf ho]
    refine applyDefaultsForm_congr hf ho fun d => Option.ext fun v => ?_
    rw [Form.field?_eq_some_iff hfd', Form.field?_eq_some_iff hfd, hsame]
  · intro g hg hgd hdisjoint
    -- no default is asked for by both forms, so each leaves alone what the other sets
    have hswap : updated f (updated g o) = updated g (updated f o) :=
      updated_comm fun d => submitted_eq_none_of_has (hdisjoint d) o
    refine ⟨updated g (updated f o), updated g o, named g o, ?_, applyDefaultsForm_eq hg ho, ?_, ?_⟩
    · rw [applyDefaultsForm_eq hg (haligned f), named_updated]
    · rw [applyDefaultsForm_eq hf (haligned g), named_updated, hswap]
    · intro m hmd hmerged
      have hfield : ∀ d : Default,
          m.field? d.fieldName = (f.field? d.fieldName).or (g.field? d.fieldName) :=
        fun d => Form.field?_of_union hfd hgd hmd (hmerged d)
      have hsubmitted := fun d => submitted_of_union (hfield d) (hdisjoint d) o
      refine ⟨named m o, ?_, ?_⟩
      · rw [applyDefaultsForm_eq (hasShortNumerals_of_union hf hg hfield) ho, ← hswap,
          updated_updated, updated]
        simp only [hsubmitted]
      · intro d
        rw [mem_named_iff, mem_named_iff, mem_named_iff, hsubmitted, Option.isSome_or,
          Bool.or_eq_true]

/-- A darkness and a roll, submitted to the label printer one after the other or as one form.  The
    color mode does not exist, so it stays as it is. -/
theorem partial_update_darkness_and_source :
    let o : DriverOptions := .labelPrinter
    let f : Form := ⟨[("print-darkness", some "80%"), ("session", some "token")]⟩
    let g : Form := ⟨[("media-source", some "alternate-roll"), ("print-color-mode", some "plaid")]⟩
    o.Aligned ∧ HasShortNumerals f ∧ f.IsDistinct ∧
      ∃ o' both all, applyDefaultsForm f o = .ok (o', [.darkness]) ∧
        o'.darknessConfigured = 80 ∧ o'.mediaDefault = firstRoll ∧
        applyDefaultsForm g o' = .ok (both, [.media]) ∧
        applyDefaultsForm ⟨f.fields ++ g.fields⟩ o = .ok (both, all) ∧
        Default.darkness ∈ all ∧ Default.media ∈ all ∧ Default.color ∉ all := by
  intro o f g
  have ho : o.Aligned := aligned_labelPrinter
  have hf : HasShortNumerals f := fun d => by cases d <;> decide
  have hg : HasShortNumerals g := fun d => by cases d <;> decide
  have hfd : f.IsDistinct := by decide
  obtain ⟨o', names, happly, hnames, -, hvalues, hothers, -, -, hcompose⟩ :=
    partial_update ho hf hfd
  obtain rfl : names = [.darkness] := hnames
  obtain ⟨both, o'', others, hsecond, hother, -, hmerged⟩ :=
    hcompose g hg (by decide) fun d => by cases d <;> decide
  obtain rfl : others = [.media] := by
    rw [applyDefaultsForm_eq hg ho] at hother
    cases hother
    rfl
  obtain ⟨all, hall, hmem⟩ := hmerged ⟨f.fields ++ g.fields⟩ (by decide)
    fun d v => List.mem_append
  have hdarkness : some 80 = some (o'.current .darkness) := hvalues .darkness (by decide)
  exact ⟨ho, hf, hfd, o', both, all, happly, (Option.some.inj hdarkness).symm,
    hothers .media (by decide), hsecond, hall, (hmem _).2 (by decide), (hmem _).2 (by decide),
    fun h => absurd ((hmem _).1 h) (by decide)⟩

end DriverOptions

end PrinterConsole
