/-
  Saved records are read back as they were.

  A record gives every field its own form: sets of flags are lists of keywords, modes are
  keywords, a missing tracking is the empty text.  Reading has a default for every member that
  says nothing, and an empty set says nothing; so a value survives if none of its sets is empty or
  has bits without a keyword, and if its ready media belong to its sources.  `Storable` says that.

  A record is a list of members with keys of their own, so a field is read back by its key
  (`memberOr_of_member` and the lemmas beside it, one for each form of a field), and the record as
  a whole field by field.

  Conversely, what is read is `Storable`: a set that is read is a set of flags, and never an empty
  one in place of a default (`isSet_of_setOr`).  `ReadFrom` holds what a reading of driver options
  came from, so that neither that nor later proofs unfold the reader.

  Main statements: entries and identities always survive (`LoadedMedia.ofJson_toJson`,
  `Identity.ofJson_toJson`), driver options do if they are storable
  (`DriverOptions.ofJson_toJson`), and whatever is read is storable
  (`DriverOptions.storable_ofJson`).
-/
import PrinterConsole.Driver.Profile
import PrinterConsole.Identity.Basic
import PrinterConsole.Proofs.Fault
import PrinterConsole.Proofs.Json.Keys
import PrinterConsole.Proofs.Keyword.Flags

namespace PrinterConsole

open Vocabulary

/-! ## Loaded media

  Every member is written under its key and read from it; the keys are all different, so none is
  read for another. -/

namespace LoadedMedia

theorem ofJson?_tracking (t : Option Tracking) :
    ofJson? (.string (t.elim "" keyword)) = .ok t := by
  cases t with
  | none => rfl
  | some m => exact ofJson?_keyword m

theorem nodup_record (m : LoadedMedia) : (m.record.map (·.1)).Nodup := by
  simp [record]

/-- **An entry comes back as it was**: `ofJson` undoes `toJson`. -/
theorem ofJson_toJson (m : LoadedMedia) : ofJson m.toJson = .ok m := by
  -- the members in the order in which they are written
  have hat : ∀ (i : Nat) {key : String} {v : Json}, m.record[i]? = some (key, v) →
      ∀ absent, Json.memberD m.record key absent = v :=
    fun _ _ _ h => Json.memberD_of_getElem? (nodup_record m) h
  simp only [ofJson, toJson, Json.toRecord, ok_bind, lengthOf, hat 0 rfl, hat 1 rfl, hat 2 rfl,
    hat 3 rfl, hat 4 rfl, hat 5 rfl, hat 6 rfl, hat 7 rfl, hat 8 rfl, hat 9 rfl, hat 10 rfl,
    hat 11 rfl, Json.toWhole, ofJson?_tracking]
  rfl

end LoadedMedia

/-! ## Identities -/

theorem Contact.nodup_record (c : Contact) : (c.record.map (·.1)).Nodup := by
  simp [record]

/-- **A contact comes back as it was**: `ofJson` undoes `toJson`. -/
theorem Contact.ofJson_toJson (c : Contact) : ofJson c.toJson = .ok c := by
  have hat : ∀ (i : Nat) {key : String} {v : Json}, c.record[i]? = some (key, v) →
      ∀ absent, Json.memberD c.record key absent = v :=
    fun _ _ _ h => Json.memberD_of_getElem? (nodup_record c) h
  simp only [ofJson, toJson, Json.toRecord, ok_bind, hat 0 rfl, hat 1 rfl, hat 2 rfl]
  rfl

theorem Identity.nodup_record (i : Identity) : (i.record.map (·.1)).Nodup := by
  simp [record]

/-- **An identity comes back as it was**: `ofJson` undoes `toJson`. -/
theorem Identity.ofJson_toJson (i : Identity) : ofJson i.toJson = .ok i := by
  have hat : ∀ (k : Nat) {key : String} {v : Json}, i.record[k]? = some (key, v) →
      ∀ absent, Json.memberD i.record key absent = v :=
    fun _ _ _ h => Json.memberD_of_getElem? (nodup_record i) h
  simp only [ofJson, toJson, Json.toRecord, ok_bind, hat 0 rfl, hat 1 rfl, hat 2 rfl, hat 3 rfl,
    hat 4 rfl, hat 5 rfl, Contact.ofJson_toJson]
  rfl

/-! ## Driver options

  The members of options are read with a default each, which is used if a member is absent or not of
  its kind.  `Storable` options have none that would be replaced. -/

namespace DriverOptions

/-- No value of the options `o` is lost when they are written: the supported sets are sets of flags
    and, but for tracking, not empty, and the ready media belong to the sources (`Aligned`). -/
structure Storable (o : DriverOptions) : Prop where
  color : IsSet ColorMode o.colorSupported
  color_ne : o.colorSupported ≠ 0
  sides : IsSet Sides o.sidesSupported
  sides_ne : o.sidesSupported ≠ 0
  content : IsSet Content o.contentSupported
  content_ne : o.contentSupported ≠ 0
  scaling : IsSet Scaling o.scalingSupported
  scaling_ne : o.scalingSupported ≠ 0
  tracking : IsSet Tracking o.trackingSupported
  aligned : o.Aligned

section Members

variable {α : Type} [Vocabulary α] {r : List (String × Json)} {key : String}

/-- A set of flags under a key is read back; if it is empty, it must be the `default`. -/
theorem setOr_of_member [BEq α] [Flags α] {set default : Int}
    (h : ∀ absent, Json.memberD r key absent = setJson α set) (hs : IsSet α set)
    (he : set = 0 → default = 0) : setOr α r key default = .ok set := by
  rw [setOr, h, setJson, setOfJson_keywordsOf hs, ok_bind]
  by_cases hz : set = 0
  · rw [if_pos hz, he hz, hz]
    rfl
  · rw [if_neg hz]
    rfl

theorem memberOr_of_member [Flags α] {m default : α}
    (h : ∀ absent, Json.memberD r key absent = .string (keyword m)) :
    memberOr r key default = .ok m := by
  rw [memberOr, h, ofJson?_keyword]
  rfl

theorem wholeOr_of_member {n default : Int} (h : ∀ absent, Json.memberD r key absent = .int n) :
    wholeOr r key default = .ok n := by
  rw [wholeOr, h]
  rfl

theorem itemsOr_of_member {items default : List Json}
    (h : ∀ absent, Json.memberD r key absent = .array items) :
    itemsOr r key default = .ok items := by
  rw [itemsOr, h]
  rfl

end Members

theorem nodup_record (o : DriverOptions) : (o.record.map (·.1)).Nodup := by
  simp [record]

/-- **`Storable` options come back as they were.** -/
theorem ofJson_toJson {o : DriverOptions} (h : o.Storable) : ofJson o.toJson = .ok o := by
  have hat : ∀ (i : Nat) {key : String} {v : Json}, o.record[i]? = some (key, v) →
      ∀ absent, Json.memberD o.record key absent = v :=
    fun _ _ _ h => Json.memberD_of_getElem? (nodup_record o) h
  have hresolutions : (o.resolutions.map Json.array).mapM Json.toItems = .ok o.resolutions :=
    mapM_of_forall_ok (fun items => show (Json.array items).toItems = .ok items from rfl) _
  have hready : (o.mediaReady.map LoadedMedia.toJson).mapM LoadedMedia.ofJson = .ok o.mediaReady :=
    mapM_of_forall_ok LoadedMedia.ofJson_toJson _
  -- every key stands where `record` puts it, once
  simp only [ofJson, toJson, Json.toRecord, ok_bind,
    setOr_of_member (hat 0 rfl) h.color (absurd · h.color_ne), memberOr_of_member (hat 1 rfl),
    setOr_of_member (hat 2 rfl) h.sides (absurd · h.sides_ne), memberOr_of_member (hat 3 rfl),
    setOr_of_member (hat 4 rfl) h.content (absurd · h.content_ne), memberOr_of_member (hat 5 rfl),
    setOr_of_member (hat 6 rfl) h.scaling (absurd · h.scaling_ne), memberOr_of_member (hat 7 rfl),
    setOr_of_member (hat 8 rfl) h.tracking (fun _ => rfl),
    wholeOr_of_member (hat 9 rfl), wholeOr_of_member (hat 10 rfl),
    wholeOr_of_member (hat 11 rfl), wholeOr_of_member (hat 12 rfl),
    wholeOr_of_member (hat 13 rfl), itemsOr_of_member (hat 14 rfl),
    wholeOr_of_member (hat 15 rfl), wholeOr_of_member (hat 16 rfl),
    itemsOr_of_member (hat 17 rfl), hresolutions, itemsOr_of_member (hat 18 rfl),
    itemsOr_of_member (hat 19 rfl), itemsOr_of_member (hat 20 rfl),
    itemsOr_of_member (hat 21 rfl), hready, hat 22 rfl, LoadedMedia.ofJson_toJson, hat 23 rfl,
    wholeOr_of_member (hat 24 rfl), wholeOr_of_member (hat 25 rfl),
    itemsOr_of_member (hat 26 rfl), itemsOr_of_member (hat 27 rfl), hat 28 rfl]
  exact congrArg Except.ok (align_eq_self h.aligned)

/-! ## What is read

  What is read is `Storable`, whatever it is read from, because sets are made of keywords and the
  media fitted to the sources. -/

/-- What the parts of the options `o` with a condition on them were read from, in the record `r`. -/
structure ReadFrom (r : List (String × Json)) (o : DriverOptions) : Prop where
  color : setOr ColorMode r "color_supported" 17 = .ok o.colorSupported
  sides : setOr Sides r "sides_supported" 1 = .ok o.sidesSupported
  content : setOr Content r "content_supported" 31 = .ok o.contentSupported
  scaling : setOr Scaling r "scaling_supported" 31 = .ok o.scalingSupported
  tracking : setOr Tracking r "tracking_supported" 0 = .ok o.trackingSupported
  speed : itemsOr r "speed_supported" [.int 0, .int 0] = .ok o.speedSupported
  resolutions : ∃ items,
    itemsOr r "resolutions" [.array [.int 300, .int 300]] = .ok items ∧
      items.mapM Json.toItems = .ok o.resolutions
  media : itemsOr r "media" [] = .ok o.media
  types : itemsOr r "types" [] = .ok o.types
  sources : itemsOr r "sources" [] = .ok o.sources
  mediaReady : ∃ items entries,
    itemsOr r "media_ready" [] = .ok items ∧ items.mapM LoadedMedia.ofJson = .ok entries ∧
      o.mediaReady = fitted o.sources.length entries
  mediaDefault :
    LoadedMedia.ofJson (Json.memberD r "media_default" (.object [])) = .ok o.mediaDefault
  leftOffset : itemsOr r "left_offset_supported" [.int 0, .int 0] = .ok o.leftOffsetSupported
  topOffset : itemsOr r "top_offset_supported" [.int 0, .int 0] = .ok o.topOffsetSupported

/-- Options that were read are `ReadFrom` a record. -/
theorem readFrom_of_ofJson {v : Json} {o : DriverOptions} (h : ofJson v = .ok o) :
    ∃ r, v.toRecord = .ok r ∧ ReadFrom r o := by
  simp only [ofJson, bind_eq_ok] at h
  obtain ⟨r, hr, color, hcolor, _, _, sides, hsides, _, _, content, hcontent, _, _, scaling,
    hscaling, _, _, tracking, htracking, h⟩ := h
  obtain ⟨_, _, _, _, _, _, _, _, _, _, speed, hspeed, _, _, _, _, resolutions, hresolutions, media,
    hmedia, types, htypes, sources, hsources, entries, ⟨items, hitems, hentries⟩, mediaDefault,
    hmediaDefault, _, _, _, _, leftOffset, hleft, topOffset, htop, h⟩ := h
  cases h
  exact ⟨r, hr, hcolor, hsides, hcontent, hscaling, htracking, hspeed, hresolutions, hmedia, htypes,
    hsources, ⟨items, entries, hitems, hentries, rfl⟩, hmediaDefault, hleft, htop⟩

/-- Reading a set gives a set of flags, and never an empty one in place of a `default`. -/
theorem isSet_of_setOr {α : Type} [Vocabulary α] [BEq α] [LawfulBEq α] [Flags α]
    {r : List (String × Json)} {key : String} {default set : Int} (hd : IsSet α default)
    (h : setOr α r key default = .ok set) : IsSet α set ∧ (default ≠ 0 → set ≠ 0) := by
  obtain ⟨found, hfound, h⟩ := bind_eq_ok.1 h
  by_cases hz : found = 0
  · rw [if_pos hz] at h
    cases h
    exact ⟨hd, id⟩
  · rw [if_neg hz] at h
    cases h
    exact ⟨isSet_of_setOfJson hfound, fun _ => hz⟩

/-- Options that were read are `Storable`, part by part. -/
theorem ReadFrom.storable {r : List (String × Json)} {o : DriverOptions} (h : ReadFrom r o) :
    o.Storable := by
  obtain ⟨hcolor, hcolor'⟩ := isSet_of_setOr (by decide) h.color
  obtain ⟨hsides, hsides'⟩ := isSet_of_setOr (by decide) h.sides
  obtain ⟨hcontent, hcontent'⟩ := isSet_of_setOr (by decide) h.content
  obtain ⟨hscaling, hscaling'⟩ := isSet_of_setOr (by decide) h.scaling
  obtain ⟨htracking, -⟩ := isSet_of_setOr (by decide) h.tracking
  obtain ⟨items, entries, -, -, hready⟩ := h.mediaReady
  have haligned : o.Aligned := by rw [Aligned, hready, length_fitted]
  exact ⟨hcolor, hcolor' (by decide), hsides, hsides' (by decide), hcontent, hcontent' (by decide),
    hscaling, hscaling' (by decide), htracking, haligned⟩

/-- **Whatever is read is `Storable`.** -/
theorem storable_ofJson {v : Json} {o : DriverOptions} (h : ofJson v = .ok o) : o.Storable := by
  obtain ⟨r, -, hr⟩ := readFrom_of_ofJson h
  exact hr.storable

theorem storable_labelPrinter : labelPrinter.Storable := by
  constructor <;> decide

end DriverOptions

end PrinterConsole
