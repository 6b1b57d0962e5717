/-
  Records are read into a normal form.

  A record may have been edited by hand: numbers as texts or fractions, keywords in any case,
  lists that are too short or too long, members that are missing.  Reading puts all of that right,
  so such a record does not come back as it was; but what it is read as is written in a form that
  no further reading changes (`NormalizesOnce`).

  For entries, identities, contacts and supplies that is so because every value comes back as it
  was.  For driver options it is so because what is read is `Storable`, and such options come
  back.

  The one thing that reading cannot tell is an empty set from a missing one, and a set has no bits
  besides those of its members.  So options come back as they were exactly if they are made of
  members (`MadeOfMembers`) and their ready media belong to their sources.

  Main statement: one reading brings each of the five records into its normal form, and which
  options come back as they were (`records_normalize_once`).
-/
import PrinterConsole.Proofs.State.Codec
import PrinterConsole.Status.Supply

namespace PrinterConsole

open Vocabulary

/-! ## Unions of members

  The sets that are read from keywords are the unions of members, bit by bit. -/

namespace Vocabulary

variable {α : Type} [Vocabulary α] [BEq α] [LawfulBEq α] [Flags α]

/-- A number is a set of flags (`IsSet`) exactly if it is a union of members. -/
theorem isSet_iff_exists_setOf {set : Int} : IsSet α set ↔ ∃ ms : List α, setOf ms = set := by
  constructor
  · intro h
    exact ⟨membersIn α set, h⟩
  · rintro ⟨ms, rfl⟩
    exact isSet_setOf ms

/-- A union (`setOf`) is empty only if nothing was put in: no member has no bits. -/
theorem setOf_eq_zero_iff {ms : List α} : setOf ms = 0 ↔ ms = [] := by
  constructor
  · intro hz
    rcases ms with - | ⟨m, rest⟩
    · rfl
    · -- the bit of `m` is set in its union, and not in zero
      have hin : inSet (setOf (m :: rest)) m = true := by
        rw [setOf, inSet_setWhere]
        simp
      rw [hz] at hin
      simp [inSet, sharesBit] at hin
  · rintro rfl
    exact setOf_nil

end Vocabulary

/-! ## Driver options that are made of members

  What is written of options are keywords, so what is read back are unions.  Options that have any
  other set are changed by being written and read. -/

namespace DriverOptions

/-- The sets of the options `o` are unions of members, and but for tracking not empty; the ready
    media belong to the sources. -/
structure MadeOfMembers (o : DriverOptions) : Prop where
  color : ∃ ms : List ColorMode, ms ≠ [] ∧ setOf ms = o.colorSupported
  sides : ∃ ms : List Sides, ms ≠ [] ∧ setOf ms = o.sidesSupported
  content : ∃ ms : List Content, ms ≠ [] ∧ setOf ms = o.contentSupported
  scaling : ∃ ms : List Scaling, ms ≠ [] ∧ setOf ms = o.scalingSupported
  tracking : ∃ ms : List Tracking, setOf ms = o.trackingSupported
  aligned : o.Aligned

section Unions

variable {α : Type} [Vocabulary α] [BEq α] [LawfulBEq α] [Flags α]

/-- The unions of at least one member are the sets that are not empty, as no `code` is zero. -/
theorem exists_union_iff {set : Int} :
    (∃ ms : List α, ms ≠ [] ∧ setOf ms = set) ↔ IsSet α set ∧ set ≠ 0 := by
  constructor
  · rintro ⟨ms, hne, rfl⟩
    exact ⟨isSet_setOf ms, fun hz => hne (setOf_eq_zero_iff.1 hz)⟩
  · rintro ⟨hset, hne⟩
    refine ⟨membersIn α set, ?_, hset⟩
    intro hnone
    rw [IsSet, hnone, setOf_nil] at hset
    exact hne hset.symm

end Unions

/-- `MadeOfMembers` and `Storable`, the two ways to say what a record keeps, are the same, set by
    set. -/
theorem madeOfMembers_iff_storable {o : DriverOptions} : o.MadeOfMembers ↔ o.Storable := by
  constructor
  · rintro ⟨hcolor, hsides, hcontent, hscaling, htracking, haligned⟩
    obtain ⟨hcolor, hcolor'⟩ := exists_union_iff.1 hcolor
    obtain ⟨hsides, hsides'⟩ := exists_union_iff.1 hsides
    obtain ⟨hcontent, hcontent'⟩ := exists_union_iff.1 hcontent
    obtain ⟨hscaling, hscaling'⟩ := exists_union_iff.1 hscaling
    exact ⟨hcolor, hcolor', hsides, hsides', hcontent, hcontent', hscaling, hscaling',
      isSet_iff_exists_setOf.2 htracking, haligned⟩
  · intro h
    exact ⟨exists_union_iff.2 ⟨h.color, h.color_ne⟩, exists_union_iff.2 ⟨h.sides, h.sides_ne⟩,
      exists_union_iff.2 ⟨h.content, h.content_ne⟩, exists_union_iff.2 ⟨h.scaling, h.scaling_ne⟩,
      isSet_iff_exists_setOf.1 h.tracking, h.aligned⟩

/-- **Options come back as they were exactly if they are made of members** (`MadeOfMembers`): what
    comes back was read, and so is `Storable`. -/
theorem ofJson_toJson_iff {o : DriverOptions} : ofJson o.toJson = .ok o ↔ o.MadeOfMembers := by
  rw [madeOfMembers_iff_storable]
  exact ⟨storable_ofJson, ofJson_toJson⟩

end DriverOptions

/-! ## Supplies -/

namespace Supply

theorem ofJson?_color (c : SupplyColor) : ofJson? (.string (keyword c)) = .ok (some c) := by
  have hnamed : ∀ c ∈ (members : List SupplyColor),
      keyword c ≠ "" ∧ ofKeyword? (keyword c) = some c := by decide
  obtain ⟨hne, hkeyword⟩ := hnamed c (by cases c <;> decide)
  have ht : (Json.string (keyword c)).truthy = true := by simpa [Json.truthy] using hne
  simp [ofJson?, ht, hkeyword]

/-- **A supply comes back as it was**: `ofJson` undoes `toJson`. -/
theorem ofJson_toJson (s : Supply) : ofJson s.toJson = .ok s := by
  simp only [toJson, ofJson, Json.toRecord, ok_bind]
  have hcolor : (ofJson? (.string (keyword s.color)) : Except Fault (Option SupplyColor)) =
      .ok (some s.color) := ofJson?_color s.color
  simp [Json.memberD, Json.lookup, Json.toWhole, hcolor]
  rfl

end Supply

/-! ## Normal forms

  To write and read once makes a record that no longer changes; that is said of all five records by
  `NormalizesOnce`. -/

/-- Whatever was read, writing and reading it again changes nothing of what `write` gives. -/
def NormalizesOnce {α : Type} (read : Json → Except Fault α) (write : α → Json) : Prop :=
  ∀ v a, read v = .ok a → ∃ b, read (write a) = .ok b ∧ write b = write a

theorem normalizesOnce_of_readBack {α : Type} {read : Json → Except Fault α} {write : α → Json}
    (h : ∀ v a, read v = .ok a → read (write a) = .ok a) : NormalizesOnce read write :=
  fun v a hread => ⟨a, h v a hread, rfl⟩

/-- **One reading brings a record into its normal form** (`NormalizesOnce`), whatever it holds; and
    driver options come back as they were exactly if they are made of members. -/
theorem records_normalize_once :
    NormalizesOnce DriverOptions.ofJson DriverOptions.toJson ∧
      NormalizesOnce Identity.ofJson Identity.toJson ∧
      NormalizesOnce Contact.ofJson Contact.toJson ∧
      NormalizesOnce LoadedMedia.ofJson LoadedMedia.toJson ∧
      NormalizesOnce Supply.ofJson Supply.toJson ∧
      ∀ o : DriverOptions, DriverOptions.ofJson o.toJson = .ok o ↔ o.MadeOfMembers := by
  refine ⟨?driver, ?identity, ?contact, ?media, ?supply, ?made⟩
  case driver =>
    -- what is read is storable, whatever it was read from
    refine normalizesOnce_of_readBack fun v o h => ?_
    exact DriverOptions.ofJson_toJson (DriverOptions.storable_ofJson h)
  case identity => exact normalizesOnce_of_readBack fun _ i _ => i.ofJson_toJson
  case contact => exact normalizesOnce_of_readBack fun _ c _ => c.ofJson_toJson
  case media => exact normalizesOnce_of_readBack fun _ m _ => m.ofJson_toJson
  case supply => exact normalizesOnce_of_readBack fun _ s _ => s.ofJson_toJson
  case made =>
    intro o
    exact DriverOptions.ofJson_toJson_iff

/-- A supply that was edited by hand is read and written in its normal form. -/
example :
    (Supply.ofJson (.object [("level", .string " 07"), ("color", .string "Light-Cyan ")])).map
        Supply.toJson =
      .ok (.object [("description", .string ""), ("color", .string "light-cyan"),
        ("level", .int 7), ("type", .string "")]) := by
  rfl

end PrinterConsole
