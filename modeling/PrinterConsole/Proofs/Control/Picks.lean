/-
  What is picked on the print defaults page is what the page shows next.

  Each control writes its choices in a way of its own (keywords, codes, percents, resolutions),
  and the form reads each field in a way of its own.  A control follows its picks if the two fit:
  the text of a choice is read as a value, and with that value in the options a choice is selected
  exactly if it has the same text.  That is shown control by control (`Follows`), and the page is
  put together from its controls.

  What a submission of one field does is known from `applyDefaultsForm_oneField`, so `Follows` can
  speak of the value that is read instead of the form.  The three controls that may be faults do
  not look at the default that is picked, so they are as they were, and `defaultsPage_eq` puts the
  page together around them.  The controls of keywords share `follows_keyword`, those of numbers
  `Choice.picks_number`.

  Main statement: `page_after_pick`.
-/
import Mathlib.Logic.Function.Basic
import PrinterConsole.Control.Defaults
import PrinterConsole.Driver.Profile
import PrinterConsole.Proofs.Driver.PartialUpdate
import PrinterConsole.Proofs.Form.Numeral
import PrinterConsole.Proofs.Keyword.Flags

namespace PrinterConsole

open PrinterConsole.Number PrinterConsole.Text

/-! ## Written numerals are short

  A form is refused for numerals of more than `maxDigits` digits alone.  The page offers numbers
  that it could write, and these have no more digits than that. -/

namespace Form

/-- The first run of digits in a text that starts with a written number is that of the number. -/
theorem digitRuns_intText {n : Int} {text : String} {rest : List Char}
    (htext : text.toList = (intText n).toList ++ rest) (hr : NoDigit rest) :
    digitRuns text = values (Nat.toDigits 10 n.natAbs) :: secondRun rest := by
  rw [digitRuns, htext, trimStart_intText, leadingDigits_intText n hr]

/-- A number that can be written has no run of more than `maxDigits` digits, which would be too long
    to be read again. -/
theorem length_values_le {n : Int} (hn : isWritable n = true) :
    (values (Nat.toDigits 10 n.natAbs)).length ≤ maxDigits := by
  rw [length_values (ascii_toDigits _)]
  exact length_toDigits_le hn

/-- The two numbers of a resolution that can be written have runs that can be read again, which is
    what `Form.resolution` asks for. -/
theorem short_resolutionName {x y : Int} (hx : isWritable x = true) (hy : isWritable y = true) :
    ∀ run ∈ digitRuns (resolutionName x y), run.length ≤ maxDigits := by
  rw [digitRuns_intText (toList_resolutionName x y) (noDigit_afterFirst x y)]
  refine List.forall_mem_cons.2 ⟨length_values_le hx, ?_⟩
  split
  · exact List.forall_mem_nil _
  · have hunit : NoDigit ['d', 'p', 'i'] := noDigit_cons (by decide) _
    rw [secondRun, leadingDigits_intText y hunit, Option.map_some, Option.toList_some,
      List.forall_mem_singleton]
    exact length_values_le hy

end Form

/-! ## Selecting by text

  A control marks a choice by what its member or number is, and a submission gives a text.  The two
  come to the same, since the text tells the member or the number. -/

/-- The choice, selected if it has the given `text`, and as it was otherwise. -/
def Choice.picked (text : String) (c : Choice) : Choice :=
  { c with selected := c.value.same (.string text) }

/-- The control with the choices of the given `text` selected; a `Control.fixed` text stays. -/
def Control.picked (text : String) (c : Control) : Control :=
  { c with choices := c.choices.map (Choice.picked text) }

namespace Vocabulary

/-- **Choices written as keywords follow their picks**: the keyword names the member again (`hk`),
    so the choice of a text and the choice that is selected by the member are one. -/
theorem picks_ofMember {α : Type} [Vocabulary α] [BEq α] [LawfulBEq α]
    (hk : ∀ m : α, ofKeyword? (keyword m) = some m) (ms : List α) (attr : String)
    (before : α → Bool) {c : Choice} (hc : c ∈ ms.map (Choice.ofMember attr before)) :
    ∃ m : α, c.value = .string (keyword m) ∧
      ms.map (Choice.ofMember attr (· == m)) =
        (ms.map (Choice.ofMember attr before)).map (Choice.picked (keyword m)) := by
  obtain ⟨m, -, rfl⟩ := List.mem_map.1 hc
  refine ⟨m, rfl, ?_⟩
  rw [List.map_map]
  refine List.map_congr_left fun a _ => ?_
  have hsame : (a == m) = (keyword a == keyword m) := by
    rw [Bool.eq_iff_iff, beq_iff_eq, beq_iff_eq]
    refine ⟨fun h => h ▸ rfl, fun h => ?_⟩
    have ha := hk a
    rw [h, hk m] at ha
    exact (Option.some.inj ha).symm
  show Choice.ofMember attr (· == m) a = (Choice.ofMember attr before a).picked (keyword m)
  simp only [Choice.ofMember, Choice.picked, Json.same, hsame]

end Vocabulary

/-- **Choices written as numbers follow their picks**: `number` tells the members apart, so the
    choice of a text and the choice that is selected by the number are one. -/
theorem Choice.picks_number {α : Type} (number : α → Nat) (make : Int → α → Choice)
    {items : List α}
    (hvalue : ∀ n a, (make n a).value = .string (natText (number a)))
    (hmake : ∀ n n' a, make n' a = { make n a with selected := n' == (number a : Int) })
    (n : Int) {c : Choice} (hc : c ∈ items.map (make n)) :
    ∃ a ∈ items, c.value = .string (natText (number a)) ∧
      items.map (make (number a)) =
        (items.map (make n)).map (Choice.picked (natText (number a))) := by
  obtain ⟨a, ha, rfl⟩ := List.mem_map.1 hc
  refine ⟨a, ha, hvalue n a, ?_⟩
  rw [List.map_map]
  refine List.map_congr_left fun b _ => ?_
  have hsame : ((number a : Int) == (number b : Int)) =
      (natText (number b) == natText (number a)) := by
    rw [Bool.eq_iff_iff, beq_iff_eq, beq_iff_eq, natText_inj, Int.natCast_inj, eq_comm]
  show make (number a) b = (make n b).picked (natText (number a))
  rw [hmake n]
  simp only [Choice.picked, hvalue, Json.same, hsame]

namespace DriverOptions

open Vocabulary

/-! ## A submission of one field

  A form with one field changes one default, or nothing if the field is not read.  What is told here
  holds of each default by the general account of `applyDefaultsForm`, so the controls need not be
  looked at. -/

/-- A form with one field, `name`, and its `text`. -/
def oneField (name text : String) : Form := ⟨[(name, some text)]⟩

/-- No two defaults have one field (`Default.fieldName`). -/
theorem fieldName_inj {d d' : Default} (h : d.fieldName = d'.fieldName) : d = d' := by
  cases d <;> cases d' <;> first | rfl | exact absurd h (by decide)

/-- A form with the field of one default submits this one and no other (`fieldName_inj`). -/
theorem submitted_oneField (o : DriverOptions) (d : Default) (text : String) (d' : Default) :
    submitted (oneField d.fieldName text) o d' =
      if d' = d then d'.read o (some text) else none := by
  show (List.lookup d'.fieldName [(d.fieldName, some text)]).bind (d'.read o) = _
  by_cases h : d' = d
  · rw [if_pos h, h, List.lookup_cons_self, Option.bind_some]
  · have hne : d'.fieldName ≠ d.fieldName := fun he => h (fieldName_inj he)
    rw [if_neg h, List.lookup_cons, beq_false_of_ne hne, List.lookup_nil, Option.bind_none]

/-- The numerals of `oneField` are those of its text, so that one condition on the text is
    enough. -/
theorem hasShortNumerals_oneField {d : Default} {text : String}
    (hshort : ∀ run ∈ d.digitRuns text, run.length ≤ maxDigits) :
    HasShortNumerals (oneField d.fieldName text) := by
  intro d' text' htext'
  change text' ∈ (List.lookup d'.fieldName [(d.fieldName, some text)]).join at htext'
  by_cases h : d' = d
  · subst h
    rw [List.lookup_cons_self] at htext'
    cases htext'
    exact hshort
  · have hne : d'.fieldName ≠ d.fieldName := fun he => h (fieldName_inj he)
    rw [List.lookup_cons, beq_false_of_ne hne] at htext'
    cases htext'

section OneField

variable {o : DriverOptions} {d : Default} {text : String} {v : d.Value}
  (hread : d.read o (some text) = some v)

include hread

/-- A field that is read puts its value in, at its own default. -/
theorem updated_oneField :
    updated (oneField d.fieldName text) o = o.withDefaults (Function.update o.current d v) := by
  unfold updated
  congr 1
  funext d'
  rw [submitted_oneField]
  by_cases h : d' = d
  · subst h
    rw [if_pos rfl, hread, Option.getD_some, Function.update_self]
  · rw [if_neg h, Option.getD_none, Function.update_of_ne h]

/-- It is the only default that is submitted, so the only one that is told. -/
theorem named_oneField : named (oneField d.fieldName text) o = [d] := by
  have hsome : ∀ d', (submitted (oneField d.fieldName text) o d').isSome = decide (d' = d) := by
    intro d'
    rw [submitted_oneField]
    by_cases h : d' = d
    · subst h
      rw [if_pos rfl, hread, decide_eq_true rfl, Option.isSome_some]
    · rw [if_neg h, decide_eq_false h, Option.isSome_none]
  rw [named, List.filter_congr fun d' _ => hsome d']
  cases d <;> rfl

/-- **A field that is read puts its value `v` in** and changes no other default.  The media are left
    out because their field may be a fault. -/
theorem applyDefaultsForm_oneField (hd : d ≠ .media)
    (hshort : ∀ run ∈ d.digitRuns text, run.length ≤ maxDigits) :
    applyDefaultsForm (oneField d.fieldName text) o =
      .ok (o.withDefaults (Function.update o.current d v), [d]) := by
  have hsource : (oneField d.fieldName text).field? "media-source" = none := by
    have hne : Default.media.fieldName ≠ d.fieldName := fun he => hd (fieldName_inj he).symm
    show List.lookup Default.media.fieldName [(d.fieldName, some text)] = none
    rw [List.lookup_cons, beq_false_of_ne hne, List.lookup_nil]
  rw [applyDefaultsForm_of_no_source (hasShortNumerals_oneField hshort) hsource,
    updated_oneField hread, named_oneField hread]

/-- Where the ready media belong to the sources (`Aligned`), the field of the media does so as
    well. -/
theorem applyDefaultsForm_oneField_of_aligned (ho : o.Aligned)
    (hshort : ∀ run ∈ d.digitRuns text, run.length ≤ maxDigits) :
    applyDefaultsForm (oneField d.fieldName text) o =
      .ok (o.withDefaults (Function.update o.current d v), [d]) := by
  rw [applyDefaultsForm_eq (hasShortNumerals_oneField hshort) ho, updated_oneField hread,
    named_oneField hread]

end OneField

/-! ## The page and its controls

  To pick in a control and to look at the page again is to compare two pages.  They are put together
  alike (`pageWith`), so they differ in the one control where the options differ. -/

/-- The choices of the control for a `Default`, so that one statement can speak of all controls. -/
def DefaultsPage.choices (p : DefaultsPage) : Default → List Choice
  | .orientation => p.orientations
  | .color => p.colorMode.choices
  | .content => p.contents
  | .darkness => p.darkness
  | .quality => p.qualities
  | .scaling => p.scalings
  | .speed => p.speeds
  | .sides => p.sides
  | .resolution => p.resolution.choices
  | .media => p.sources

/-- The page with the choices of the given text selected in the control for the default `d`, and
    nothing else changed. -/
def DefaultsPage.picked (p : DefaultsPage) (d : Default) (text : String) : DefaultsPage :=
  match d with
  | .orientation => { p with orientations := p.orientations.map (Choice.picked text) }
  | .color => { p with colorMode := p.colorMode.picked text }
  | .content => { p with contents := p.contents.map (Choice.picked text) }
  | .darkness => { p with darkness := p.darkness.map (Choice.picked text) }
  | .quality => { p with qualities := p.qualities.map (Choice.picked text) }
  | .scaling => { p with scalings := p.scalings.map (Choice.picked text) }
  | .speed => { p with speeds := p.speeds.map (Choice.picked text) }
  | .sides => { p with sides := p.sides.map (Choice.picked text) }
  | .resolution => { p with resolution := p.resolution.picked text }
  | .media => { p with sources := p.sources.map (Choice.picked text) }

/-- The page of the options `o` with the three controls that may be faults: all other controls are
    read off the options. -/
def pageWith (o : DriverOptions) (sources speeds : List Choice) (resolution : Control) :
    DefaultsPage where
  sources := sources
  orientations := orientationChoices o
  colorMode := colorControl o
  sides := sidesChoices o
  qualities := qualityChoices o
  darkness := darknessChoices o
  speeds := speeds
  contents := contentChoices o
  scalings := scalingChoices o
  resolution := resolution

/-- A page is made if its three controls that may be faults are; the rest is `pageWith`. -/
theorem defaultsPage_eq {o : DriverOptions} {sources speeds : List Choice} {resolution : Control}
    {p : DefaultsPage} (hsources : sourceChoices o = .ok sources)
    (hspeeds : speedChoices o = .ok speeds) (hresolution : resolutionControl o = .ok resolution)
    (hp : pageWith o sources speeds resolution = p) : defaultsPage o = .ok p := by
  unfold defaultsPage
  rw [hsources, hspeeds, hresolution, ← hp]
  rfl

/-- A page that is made has its three controls that may be faults, and is `pageWith` them. -/
theorem exists_of_defaultsPage {o : DriverOptions} {p : DefaultsPage} (hp : defaultsPage o = .ok p) :
    sourceChoices o = .ok p.sources ∧ speedChoices o = .ok p.speeds ∧
      resolutionControl o = .ok p.resolution ∧ p = pageWith o p.sources p.speeds p.resolution := by
  unfold defaultsPage at hp
  simp only [bind_eq_ok] at hp
  obtain ⟨sources, hsources, speeds, hspeeds, resolution, hresolution, h⟩ := hp
  cases h
  exact ⟨hsources, hspeeds, hresolution, rfl⟩

/-- A page follows the picks in the control for a default: the text of each choice is read, and with
    what it is read as the page selects by this text (`DefaultsPage.picked`). -/
def Follows (o : DriverOptions) (p : DefaultsPage) (d : Default) : Prop :=
  ∀ c ∈ p.choices d, ∃ (text : String) (v : d.Value), c.value = .string text ∧
    d.read o (some text) = some v ∧ (∀ run ∈ d.digitRuns text, run.length ≤ maxDigits) ∧
    defaultsPage (o.withDefaults (Function.update o.current d v)) = .ok (p.picked d text)

/-- A small number is read by `number?` from its text, as itself. -/
theorem number?_natText {n : Nat} (hn : n ≤ 100) :
    Default.read.number? (natText n) = some (n : Int) := by
  have htext : (natText n).toList = (intText (n : Int)).toList ++ [] := by
    rw [List.append_nil, intText_natCast]
  have hshort : isWritable (n : Int) = true := isWritable_of_le hn
  rw [Default.read.number?, Form.leadingInt_intText hshort htext noDigit_nil]
  rfl

theorem short_natText {n : Nat} (hn : n ≤ 100) :
    ∀ run ∈ (Form.digitRuns (natText n)).take 1, run.length ≤ maxDigits := by
  have htext : (natText n).toList = (intText (n : Int)).toList ++ [] := by
    rw [List.append_nil, intText_natCast]
  rw [Form.digitRuns_intText htext noDigit_nil, List.take_succ_cons, List.take_zero,
    List.forall_mem_singleton]
  exact Form.length_values_le (isWritable_of_le hn)

/-- `Default.read` of a keyword, for the defaults that are read by `Vocabulary.ofKeyword?` alone. -/
theorem bind_ofKeyword?_keyword {α : Type} [Vocabulary α] [Flags α] (m : α) :
    (some (keyword m)).bind (ofKeyword? (α := α)) = some m := by
  rw [Option.bind_some, Flags.ofKeyword?_keyword]

/-- The keyword of a quality names it; qualities are no flags, so this is not among the laws of
    `Flags`. -/
theorem ofKeyword?_keyword_quality (q : Quality) : ofKeyword? (keyword q) = some q := by
  cases q <;> decide

/-- The resolutions of the options `o` are pairs of whole numbers that can be written. -/
def HasWholeResolutions (o : DriverOptions) : Prop :=
  ∀ r ∈ o.resolutions, ∃ x y : Int,
    r = [.int x, .int y] ∧ isWritable x = true ∧ isWritable y = true

/-- The option for an orientation, given the code of the default. -/
def orientationChoice (chosen : Int) (m : Orientation) : Choice where
  value := .string (natText (code m))
  label := orientationLabel m
  selected := chosen == (code m : Int)
  image := some (orientationGlyph m)

/-- The option for a percent, given the configured one. -/
def darknessChoice (configured : Int) (percent : Nat) : Choice where
  value := .string (natText percent)
  label := natText percent ++ "%"
  selected := (percent : Int) == configured

/-- The choices of two darkness settings differ in what is selected alone (`Choice.selected`). -/
theorem darknessChoice_eq (n n' : Int) (percent : Nat) :
    darknessChoice n' percent = { darknessChoice n percent with selected := n' == (percent : Int) } := by
  rw [darknessChoice, Bool.beq_comm]
  rfl

/-- A percent is at most 100, so it is a small number for `number?_natText`. -/
theorem le_of_mem_darknessPercents {n percent : Nat} (h : percent ∈ darknessPercents n) :
    percent ≤ 100 := by
  unfold darknessPercents at h
  split at h
  · rw [List.mem_singleton] at h
    omega
  · obtain ⟨step, hstep, rfl⟩ := List.mem_map.1 h
    rw [List.mem_range] at hstep
    refine Nat.div_le_of_le_mul ?_
    rw [Nat.mul_comm]
    exact Nat.mul_le_mul_right 100 (by omega)

/-- The option for a resolution, given the default one. -/
def resolutionChoice (xDefault yDefault : Int) (r : List Json) : Except Fault Choice := do
  let (text, x, y) ← resolutionParts r
  return {
    value := .string text
    label := text
    selected := (Json.int xDefault).same x && (Json.int yDefault).same y }

/-- The option for a resolution that can be written, which `Form.resolutionName` then names. -/
theorem resolutionChoice_int {x y : Int} (hx : isWritable x = true) (hy : isWritable y = true)
    (xDefault yDefault : Int) :
    resolutionChoice xDefault yDefault [.int x, .int y] = .ok {
      value := .string (Form.resolutionName x y)
      label := Form.resolutionName x y
      selected := xDefault == x && yDefault == y } := by
  rw [resolutionChoice, resolutionParts, Form.resolutionText_int hx hy]
  rfl

section Controls

variable {o : DriverOptions} {sources speeds : List Choice} {resolution : Control}
  (hsources : sourceChoices o = .ok sources) (hspeeds : speedChoices o = .ok speeds)
  (hresolution : resolutionControl o = .ok resolution)

include hsources hspeeds hresolution

/-! ## Controls of keywords -/

/-- The controls of keywords have all but one thing in common.  The text of a choice is the
    `keyword` of a member, `Default.read` gives the member's value back from it, and the three
    controls that may be faults do not look at the default.  What is left to each of them is
    `hpicked`: with that value the page selects by the keyword. -/
theorem follows_keyword {α : Type} [Vocabulary α] {d : Default} (value : α → d.Value)
    (hread : ∀ m, d.read o (some (keyword m)) = some (value m))
    (hdigits : ∀ text, d.digitRuns text = [])
    (hsame : ∀ v, let o' := o.withDefaults (Function.update o.current d v)
      sourceChoices o' = sourceChoices o ∧ speedChoices o' = speedChoices o ∧
        resolutionControl o' = resolutionControl o)
    (hpicked : ∀ c ∈ (pageWith o sources speeds resolution).choices d,
      ∃ m, c.value = .string (keyword m) ∧
        pageWith (o.withDefaults (Function.update o.current d (value m))) sources speeds resolution =
          (pageWith o sources speeds resolution).picked d (keyword m)) :
    Follows o (pageWith o sources speeds resolution) d := by
  intro c hc
  obtain ⟨m, hvalue, hpage⟩ := hpicked c hc
  obtain ⟨hsources', hspeeds', hresolution'⟩ := hsame (value m)
  refine ⟨keyword m, value m, hvalue, hread m, ?_, ?_⟩
  · rw [hdigits]
    exact List.forall_mem_nil _
  · exact defaultsPage_eq (hsources'.trans hsources) (hspeeds'.trans hspeeds)
      (hresolution'.trans hresolution) hpage

/-- The color control may be a `Control.fixed` text, which offers no choice; it is one before the
    pick exactly if it is one after it, as that depends on the supported set. -/
theorem follows_color : Follows o (pageWith o sources speeds resolution) .color := by
  refine follows_keyword hsources hspeeds hresolution (α := ColorMode) id bind_ofKeyword?_keyword
    (fun _ => rfl) (fun _ => ⟨rfl, rfl, rfl⟩) fun c hc => ?_
  change c ∈ (colorControl o).choices at hc
  unfold colorControl at hc
  split at hc
  · cases hc
  · rename_i hset
    obtain ⟨m, hvalue, hpicked⟩ := picks_ofMember Flags.ofKeyword?_keyword _ _ _ hc
    have hcontrol : colorControl { o with colorDefault := m } =
        (colorControl o).picked (keyword m) := by
      unfold colorControl
      rw [if_neg hset, if_neg hset]
      exact congrArg (fun choices => ({ choices := choices } : Control)) hpicked
    exact ⟨m, hvalue, congrArg (fun control =>
      { pageWith o sources speeds resolution with colorMode := control }) hcontrol⟩

/-- Without a choice between sides there is nothing to pick (`sidesChoices`). -/
theorem follows_sides : Follows o (pageWith o sources speeds resolution) .sides := by
  refine follows_keyword hsources hspeeds hresolution (α := Sides) id bind_ofKeyword?_keyword
    (fun _ => rfl) (fun _ => ⟨rfl, rfl, rfl⟩) fun c hc => ?_
  change c ∈ sidesChoices o at hc
  unfold sidesChoices at hc
  split at hc
  · cases hc
  · rename_i hset
    obtain ⟨m, hvalue, hpicked⟩ := picks_ofMember Flags.ofKeyword?_keyword _ _ _ hc
    have hchoices : sidesChoices { o with sidesDefault := m } =
        (sidesChoices o).map (Choice.picked (keyword m)) := by
      unfold sidesChoices
      rw [if_neg hset, if_neg hset]
      exact hpicked
    exact ⟨m, hvalue, congrArg (fun choices =>
      { pageWith o sources speeds resolution with sides := choices }) hchoices⟩

/-- A control that lists members whatever the default is, as those do that are offered by `orAll`.
    What is asked of the page is that it `put`s the choices in, for any default and for any pick. -/
theorem follows_listed {α : Type} [Vocabulary α] [Flags α] [BEq α] [LawfulBEq α] {d : Default}
    (value : α → d.Value) (put : List Choice → DefaultsPage) {ms : List α} {attr : String} {chosen : α}
    (hread : ∀ m, d.read o (some (keyword m)) = some (value m))
    (hdigits : ∀ text, d.digitRuns text = [])
    (hsame : ∀ v, let o' := o.withDefaults (Function.update o.current d v)
      sourceChoices o' = sourceChoices o ∧ speedChoices o' = speedChoices o ∧
        resolutionControl o' = resolutionControl o)
    (hlisted : (pageWith o sources speeds resolution).choices d =
      ms.map (Choice.ofMember attr (· == chosen)))
    (hput : ∀ m, pageWith (o.withDefaults (Function.update o.current d (value m))) sources speeds
      resolution = put (ms.map (Choice.ofMember attr (· == m))))
    (hpicked : ∀ text, (pageWith o sources speeds resolution).picked d text =
      put (((pageWith o sources speeds resolution).choices d).map (Choice.picked text))) :
    Follows o (pageWith o sources speeds resolution) d := by
  refine follows_keyword hsources hspeeds hresolution value hread hdigits hsame fun c hc => ?_
  rw [hlisted] at hc
  obtain ⟨m, hvalue, hselected⟩ := picks_ofMember Flags.ofKeyword?_keyword ms attr _ hc
  refine ⟨m, hvalue, ?_⟩
  rw [hput, hselected, hpicked, hlisted]

/-- A quality is kept by its `code`, which tells it as well as its keyword does. -/
theorem follows_quality : Follows o (pageWith o sources speeds resolution) .quality := by
  have hread : ∀ m : Quality, Default.read o .quality (some (keyword m)) = some (code m : Int) := by
    intro m
    rw [Default.read, Option.bind_some, ofKeyword?_keyword_quality, Option.map_some]
  refine follows_keyword hsources hspeeds hresolution (α := Quality) (fun m => (code m : Int)) hread
    (fun _ => rfl) (fun _ => ⟨rfl, rfl, rfl⟩) fun c hc => ?_
  obtain ⟨m, hvalue, hpicked⟩ := picks_ofMember ofKeyword?_keyword_quality _ _ _ hc
  have hcode : (fun q : Quality => (code q : Int) == (code m : Int)) = (· == m) := by
    funext q
    cases q <;> cases m <;> rfl
  have hchoices : qualityChoices { o with qualityDefault := (code m : Int) } =
      (qualityChoices o).map (Choice.picked (keyword m)) := by
    unfold qualityChoices
    rw [hcode]
    exact hpicked
  exact ⟨m, hvalue, congrArg (fun choices =>
    { pageWith o sources speeds resolution with qualities := choices }) hchoices⟩

/-! ## Controls of numbers

  Both controls have whole numbers up to 100 for values, which are read as they are written
  (`number?_natText`). -/

/-- Orientations are written as their codes, which `number?_natText` reads. -/
theorem follows_orientation : Follows o (pageWith o sources speeds resolution) .orientation := by
  intro c hc
  obtain ⟨m, -, hvalue, hpicked⟩ := Choice.picks_number code orientationChoice (fun _ _ => rfl)
    (fun _ _ _ => rfl) o.orientationDefault hc
  have hsmall : code m ≤ 100 := by cases m <;> decide
  have hread : Default.read o .orientation (some (natText (code m))) = some (code m : Int) := by
    rw [Default.read, Option.bind_some, number?_natText hsmall]
  refine ⟨_, (code m : Int), hvalue, hread, short_natText hsmall, ?_⟩
  exact defaultsPage_eq (o := { o with orientationDefault := (code m : Int) }) hsources hspeeds
    hresolution (congrArg (fun choices =>
      { pageWith o sources speeds resolution with orientations := choices }) hpicked)

/-- Darkness steps are written as `darknessPercents`, which tell them apart only as far as the
    percents differ: all steps of one percent are selected together, before and after. -/
theorem follows_darkness : Follows o (pageWith o sources speeds resolution) .darkness := by
  intro c hc
  obtain ⟨percent, hpercent, hvalue, hpicked⟩ := Choice.picks_number id darknessChoice
    (fun _ _ => rfl) darknessChoice_eq o.darknessConfigured hc
  have hsmall : percent ≤ 100 := le_of_mem_darknessPercents hpercent
  have hread : Default.read o .darkness (some (natText percent)) = some (percent : Int) := by
    rw [Default.read, Option.bind_some, number?_natText hsmall]
  refine ⟨_, (percent : Int), hvalue, hread, short_natText hsmall, ?_⟩
  exact defaultsPage_eq (o := { o with darknessConfigured := (percent : Int) }) hsources hspeeds
    hresolution (congrArg (fun choices =>
      { pageWith o sources speeds resolution with darkness := choices }) hpicked)

/-! ## Resolutions

  A resolution is marked by its two numbers and submitted as a text, and this control is the only
  one of those picked that may be a fault. -/

/-- Two resolutions are told apart by their texts (`Form.resolutionText`), so the one that is read
    from a text is the one that the text was written for. -/
theorem follows_resolution (hwhole : o.HasWholeResolutions) :
    Follows o (pageWith o sources speeds resolution) .resolution := by
  intro c hc
  change c ∈ resolution.choices at hc
  have hcontrol := hresolution
  unfold resolutionControl at hcontrol
  split at hcontrol
  · obtain ⟨_, -, h⟩ := bind_eq_ok.1 hcontrol
    cases h
    -- with one resolution only, the control has no choices
    cases hc
  · rename_i hseveral
    obtain ⟨choices, hchoices, h⟩ := bind_eq_ok.1 hcontrol
    cases h
    change o.resolutions.mapM (resolutionChoice o.xDefault o.yDefault) = .ok choices at hchoices
    obtain ⟨r, hr, hrc⟩ := exists_of_mapM_ok hchoices c hc
    obtain ⟨x, y, rfl, hx, hy⟩ := hwhole r hr
    rw [resolutionChoice_int hx hy] at hrc
    cases hrc
    have hread : Default.read o .resolution (some (Form.resolutionName x y)) = some (x, y) := by
      rw [Default.read, Option.bind_some, Form.resolution_resolutionName hx hy]
      rfl
    refine ⟨_, (x, y), rfl, hread, Form.short_resolutionName hx hy, ?_⟩
    -- the next page marks a choice by its numbers, this one by its name
    have hpicked : o.resolutions.mapM (resolutionChoice x y) =
        .ok (choices.map (Choice.picked (Form.resolutionName x y))) := by
      refine mapM_of_mapM_ok hchoices fun r' hr' c' hc' => ?_
      obtain ⟨x', y', rfl, hx', hy'⟩ := hwhole r' hr'
      rw [resolutionChoice_int hx' hy'] at hc' ⊢
      cases hc'
      have hselected : (x == x' && y == y') =
          (Form.resolutionName x' y' == Form.resolutionName x y) := by
        rw [Bool.eq_iff_iff, Bool.and_eq_true, beq_iff_eq, beq_iff_eq, beq_iff_eq,
          Form.resolutionName_inj hx' hy' hx hy, eq_comm, @eq_comm _ y]
      rw [Choice.picked, Json.same, ← hselected]
    have hcontrol' : resolutionControl { o with xDefault := x, yDefault := y } =
        .ok { choices := choices.map (Choice.picked (Form.resolutionName x y)) } := by
      unfold resolutionControl
      split
      · rename_i only honly
        -- the resolutions are what they were, so there still are several
        exact absurd honly (hseveral only)
      · exact bind_eq_ok.2 ⟨_, hpicked, rfl⟩
    exact defaultsPage_eq (o := { o with xDefault := x, yDefault := y }) hsources hspeeds hcontrol' rfl

end Controls

/-! ## The page -/

/-- **What is picked is what the page shows next.** The text of a choice of any control but those
    for the speed and the media, submitted alone, is taken; the page after it offers in every
    control the same choices in the same order, selects in this control exactly the choices of that
    text (`DefaultsPage.picked`), and changes no other control. -/
theorem page_after_pick {o : DriverOptions} {p : DefaultsPage} {d : Default} {c : Choice}
    (hwhole : o.HasWholeResolutions) (hp : defaultsPage o = .ok p) (hspeed : d ≠ .speed)
    (hmedia : d ≠ .media) (hc : c ∈ p.choices d) :
    ∃ (text : String) (o' : DriverOptions), c.value = .string text ∧
      applyDefaultsForm (oneField d.fieldName text) o = .ok (o', [d]) ∧
      defaultsPage o' = .ok (p.picked d text) := by
  obtain ⟨hsources, hspeeds, hresolution, heq⟩ := exists_of_defaultsPage hp
  have hfollows : Follows o p d := by
    rw [heq]
    cases d with
    | orientation => exact follows_orientation hsources hspeeds hresolution
    | color => exact follows_color hsources hspeeds hresolution
    | content =>
      exact follows_listed hsources hspeeds hresolution (α := Content) id
        (fun choices => { pageWith o p.sources p.speeds p.resolution with contents := choices })
        bind_ofKeyword?_keyword (fun _ => rfl) (fun _ => ⟨rfl, rfl, rfl⟩) rfl (fun _ => rfl)
        fun _ => rfl
    | darkness => exact follows_darkness hsources hspeeds hresolution
    | quality => exact follows_quality hsources hspeeds hresolution
    | scaling =>
      exact follows_listed hsources hspeeds hresolution (α := Scaling) id
        (fun choices => { pageWith o p.sources p.speeds p.resolution with scalings := choices })
        bind_ofKeyword?_keyword (fun _ => rfl) (fun _ => ⟨rfl, rfl, rfl⟩) rfl (fun _ => rfl)
        fun _ => rfl
    | speed => exact absurd rfl hspeed
    | sides => exact follows_sides hsources hspeeds hresolution
    | resolution => exact follows_resolution hsources hspeeds hresolution hwhole
    | media => exact absurd rfl hmedia
  obtain ⟨text, v, hvalue, hread, hshort, hpage⟩ := hfollows c hc
  exact ⟨text, _, hvalue, applyDefaultsForm_oneField hread hmedia hshort, hpage⟩

/-- The finer resolution of the label printer, picked on its page. -/
theorem page_after_pick_finer_resolution :
    ∃ (p p' : DefaultsPage) (o' : DriverOptions), defaultsPage .labelPrinter = .ok p ∧
      (p.choices .resolution).map (fun c => (c.label, c.selected)) =
        [("203dpi", true), ("300dpi", false)] ∧
      applyDefaultsForm (oneField "printer-resolution" "300dpi") .labelPrinter =
        .ok (o', [.resolution]) ∧
      defaultsPage o' = .ok p' ∧
      (p'.choices .resolution).map (fun c => (c.label, c.selected)) =
        [("203dpi", false), ("300dpi", true)] ∧
      p'.darkness = p.darkness := by
  have hcoarse : isWritable 203 = true := by decide +kernel
  have hfine : isWritable 300 = true := by decide +kernel
  have hwhole : labelPrinter.HasWholeResolutions := by
    refine List.forall_mem_cons.2 ⟨⟨203, 203, rfl, hcoarse, hcoarse⟩, ?_⟩
    exact List.forall_mem_singleton.2 ⟨300, 300, rfl, hfine, hfine⟩
  obtain ⟨p, hp⟩ : ∃ p, defaultsPage .labelPrinter = .ok p := exists_eq_ok (by decide +kernel)
  have hchoices : p.resolution.choices =
      [⟨.string "203dpi", "203dpi", true, none⟩, ⟨.string "300dpi", "300dpi", false, none⟩] := by
    obtain ⟨choices, hchoices, h⟩ := bind_eq_ok.1 (exists_of_defaultsPage hp).2.2.1
    change [[Json.int 203, .int 203], [.int 300, .int 300]].mapM (resolutionChoice 203 203) =
      .ok choices at hchoices
    rw [List.mapM_cons, resolutionChoice_int hcoarse hcoarse, ok_bind, List.mapM_cons,
      resolutionChoice_int hfine hfine, ok_bind, List.mapM_nil] at hchoices
    cases hchoices
    have h203 : Form.resolutionName 203 203 = "203dpi" := by decide
    have h300 : Form.resolutionName 300 300 = "300dpi" := by decide
    rw [h203, h300] at h
    exact congrArg Control.choices (Except.ok.inj h).symm
  have hc : ⟨.string "300dpi", "300dpi", false, none⟩ ∈ p.choices .resolution := by
    show _ ∈ p.resolution.choices
    rw [hchoices]
    exact List.mem_cons_of_mem _ List.mem_cons_self
  obtain ⟨text, o', hvalue, happly, hp'⟩ :=
    page_after_pick hwhole hp (by decide) (by decide) hc
  cases hvalue
  refine ⟨p, _, o', hp, ?_, happly, hp', ?_, rfl⟩
  · show p.resolution.choices.map _ = _
    rw [hchoices]
    rfl
  · show (p.resolution.choices.map _).map _ = _
    rw [hchoices]
    decide

end DriverOptions

end PrinterConsole
