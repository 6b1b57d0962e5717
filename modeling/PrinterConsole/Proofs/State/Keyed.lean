/-
  The values of a saved state that are kept as they were given.

  Names, keywords and the lists of a driver may be any JSON; they are stored unread (`kept`).
  Whether a written state can be read back depends on them in one way only: no object among them
  may have two members with one key (`Keyed`).

  Main statements: a record is well keyed if the kept values are
  (`DriverOptions.wellKeyed_toJson`, `Identity.wellKeyed_toJson`), and the kept values of whatever
  is read from a well-keyed value are well keyed (`DriverOptions.keyed_ofJson`,
  `Identity.keyed_ofJson`).
-/
import PrinterConsole.Proofs.State.Codec

namespace PrinterConsole

/-! ## Kept values -/

/-- The values of the entry `m` that are kept as they were given. -/
def LoadedMedia.kept (m : LoadedMedia) : List Json := [m.sizeName, m.source, m.type]

/-- The values of the driver options `o` that are kept as they were given. -/
def DriverOptions.kept (o : DriverOptions) : List Json :=
  o.speedSupported ++ o.resolutions.flatten ++ o.media ++ o.types ++ o.sources ++
    o.mediaReady.flatMap LoadedMedia.kept ++ o.mediaDefault.kept ++ o.leftOffsetSupported ++
    o.topOffsetSupported

/-- The values of the identity `i` that are kept as they were given. -/
def Identity.kept (i : Identity) : List Json :=
  [i.dnsSdName, i.location, i.geoLocation, i.organization, i.orgUnit, i.contact.name,
    i.contact.email, i.contact.telephone]

/-- The `kept` values of an entry have members with keys of their own. -/
def LoadedMedia.Keyed (m : LoadedMedia) : Prop := ∀ v ∈ m.kept, v.WellKeyed

/-- The `kept` values of driver options have members with keys of their own. -/
def DriverOptions.Keyed (o : DriverOptions) : Prop := ∀ v ∈ o.kept, v.WellKeyed

/-- The `kept` values of an identity have members with keys of their own. -/
def Identity.Keyed (i : Identity) : Prop := ∀ v ∈ i.kept, v.WellKeyed

theorem LoadedMedia.keyed_iff (m : LoadedMedia) : m.Keyed ↔
    m.sizeName.WellKeyed ∧ m.source.WellKeyed ∧ m.type.WellKeyed := by
  simp [Keyed, kept]

theorem Identity.keyed_iff (i : Identity) : i.Keyed ↔
    i.dnsSdName.WellKeyed ∧ i.location.WellKeyed ∧ i.geoLocation.WellKeyed ∧
    i.organization.WellKeyed ∧ i.orgUnit.WellKeyed ∧ i.contact.name.WellKeyed ∧
    i.contact.email.WellKeyed ∧ i.contact.telephone.WellKeyed := by
  simp [Keyed, kept]

/-- Values of options are `kept` in one of nine places. -/
theorem DriverOptions.keyed_iff (o : DriverOptions) : o.Keyed ↔
    (∀ v ∈ o.speedSupported, v.WellKeyed) ∧ (∀ vs ∈ o.resolutions, ∀ v ∈ vs, v.WellKeyed) ∧
    (∀ v ∈ o.media, v.WellKeyed) ∧ (∀ v ∈ o.types, v.WellKeyed) ∧ (∀ v ∈ o.sources, v.WellKeyed) ∧
    (∀ m ∈ o.mediaReady, m.Keyed) ∧ o.mediaDefault.Keyed ∧
    (∀ v ∈ o.leftOffsetSupported, v.WellKeyed) ∧ (∀ v ∈ o.topOffsetSupported, v.WellKeyed) := by
  have hflatten : (∀ v ∈ o.resolutions.flatten, v.WellKeyed) ↔
      ∀ vs ∈ o.resolutions, ∀ v ∈ vs, v.WellKeyed := by
    simp only [List.mem_flatten]
    exact ⟨fun h vs hvs v hv => h v ⟨vs, hvs, hv⟩, fun h v ⟨vs, hvs, hv⟩ => h vs hvs v hv⟩
  have hready : (∀ v ∈ o.mediaReady.flatMap LoadedMedia.kept, v.WellKeyed) ↔
      ∀ m ∈ o.mediaReady, m.Keyed := by
    simp only [List.mem_flatMap]
    exact ⟨fun h m hm v hv => h v ⟨m, hm, hv⟩, fun h v ⟨m, hm, hv⟩ => h m hm v hv⟩
  simp only [Keyed, kept, List.forall_mem_append, hflatten, hready, and_assoc]
  rfl

theorem LoadedMedia.keyed_empty : empty.Keyed := by
  rw [keyed_iff]
  exact ⟨trivial, trivial, trivial⟩

/-! ## Written records -/

theorem LoadedMedia.wellKeyed_toJson {m : LoadedMedia} (h : m.Keyed) : m.toJson.WellKeyed := by
  refine (Json.wellKeyed_object _).2 ⟨nodup_record m, ?_⟩
  obtain ⟨hname, hsource, htype⟩ := (keyed_iff m).1 h
  simp only [record, List.forall_mem_cons, List.not_mem_nil, false_imp_iff, implies_true, and_true,
    Json.wellKeyed_int, Json.wellKeyed_string, true_and]
  exact ⟨hname, hsource, htype⟩

/-- **The record of options is well keyed if their `kept` values are.** -/
theorem DriverOptions.wellKeyed_toJson {o : DriverOptions} (h : o.Keyed) : o.toJson.WellKeyed := by
  refine (Json.wellKeyed_object _).2 ⟨nodup_record o, ?_⟩
  obtain ⟨hspeed, hresolutions, hmedia, htypes, hsources, hready, hdefault, hleft, htop⟩ :=
    (keyed_iff o).1 h
  have hset : ∀ (α : Type) [Vocabulary α] (set : Int), (setJson α set).WellKeyed := by
    intro α _ set
    simp [setJson]
  have hresolutions' : (Json.array (o.resolutions.map Json.array)).WellKeyed := by
    simpa using hresolutions
  have hready' : (Json.array (o.mediaReady.map LoadedMedia.toJson)).WellKeyed := by
    simpa using fun m hm => LoadedMedia.wellKeyed_toJson (hready m hm)
  simp only [record, List.forall_mem_cons, List.not_mem_nil, false_imp_iff, implies_true, and_true,
    hset, hresolutions', hready', LoadedMedia.wellKeyed_toJson hdefault, Json.wellKeyed_int,
    Json.wellKeyed_string, Json.wellKeyed_bool, Json.wellKeyed_array, true_and]
  exact ⟨hspeed, hmedia, htypes, hsources, hleft, htop⟩

/-- **The record of an identity is well keyed if its `kept` values are.** -/
theorem Identity.wellKeyed_toJson {i : Identity} (h : i.Keyed) : i.toJson.WellKeyed := by
  obtain ⟨hname, hlocation, hgeo, horganization, hunit, hcontact⟩ := (keyed_iff i).1 h
  have hrecord : i.contact.toJson.WellKeyed := by
    refine (Json.wellKeyed_object _).2 ⟨Contact.nodup_record _, ?_⟩
    simp only [Contact.record, List.forall_mem_cons, List.not_mem_nil, false_imp_iff, implies_true,
      and_true]
    exact hcontact
  refine (Json.wellKeyed_object _).2 ⟨nodup_record i, ?_⟩
  simp only [record, List.forall_mem_cons, List.not_mem_nil, false_imp_iff, implies_true, and_true]
  exact ⟨hname, hlocation, hgeo, horganization, hunit, hrecord⟩

/-! ## Read values -/

/-- What is loaded from a value without repeated keys has none in its parts. -/
theorem LoadedMedia.keyed_ofJson {v : Json} {m : LoadedMedia} (hv : v.WellKeyed)
    (h : ofJson v = .ok m) : m.Keyed := by
  obtain ⟨r, hr, h⟩ := bind_eq_ok.1 h
  have hmember : ∀ key, (Json.memberD r key (.string "")).WellKeyed :=
    fun key => .memberD (hv.toRecord hr) key (Json.wellKeyed_string "")
  simp only [bind_eq_ok] at h
  obtain ⟨_, -, _, -, _, -, _, -, _, -, _, -, _, -, _, -, _, -, h⟩ := h
  cases h
  rw [keyed_iff]
  exact ⟨hmember _, hmember _, hmember _⟩

/-- **The `kept` values of options that are read from a well-keyed value are well keyed.** -/
theorem DriverOptions.keyed_ofJson {v : Json} {o : DriverOptions} (hv : v.WellKeyed)
    (h : ofJson v = .ok o) : o.Keyed := by
  obtain ⟨r, hr, hread⟩ := readFrom_of_ofJson h
  have hmember : ∀ key {absent : Json}, absent.WellKeyed →
      (Json.memberD r key absent).WellKeyed := fun key => .memberD (hv.toRecord hr) key
  have hitems : ∀ {key} {default items : List Json}, itemsOr r key default = .ok items →
      (∀ x ∈ default, x.WellKeyed) → ∀ x ∈ items, x.WellKeyed :=
    fun hi hd => (hmember _ ((Json.wellKeyed_array _).2 hd)).toItems hi
  have hzeros : ∀ x ∈ [Json.int 0, .int 0], x.WellKeyed := by simp
  have hnone : ∀ x ∈ ([] : List Json), x.WellKeyed := by simp
  rw [keyed_iff]
  refine ⟨hitems hread.speed hzeros, ?resolutions, hitems hread.media hnone,
    hitems hread.types hnone, hitems hread.sources hnone, ?ready, ?default,
    hitems hread.leftOffset hzeros, hitems hread.topOffset hzeros⟩
  case resolutions =>
    intro pair hpair
    obtain ⟨items, hi, hpairs⟩ := hread.resolutions
    obtain ⟨x, hx, hxp⟩ := exists_of_mapM_ok hpairs pair hpair
    exact (hitems hi (by simp) x hx).toItems hxp
  case ready =>
    intro m hm
    obtain ⟨items, entries, hi, hentries, hready⟩ := hread.mediaReady
    rw [hready, fitted, List.mem_append] at hm
    rcases hm with hm | hm
    · obtain ⟨x, hx, hxm⟩ := exists_of_mapM_ok hentries m (List.mem_of_mem_take hm)
      exact LoadedMedia.keyed_ofJson (hitems hi hnone x hx) hxm
    · -- entries that were filled up are empty
      rw [List.eq_of_mem_replicate hm]
      exact LoadedMedia.keyed_empty
  case default =>
    exact LoadedMedia.keyed_ofJson (hmember _ (by simp)) hread.mediaDefault

/-- **The `kept` values of an identity that is read from a well-keyed value are well keyed.** -/
theorem Identity.keyed_ofJson {v : Json} {i : Identity} (hv : v.WellKeyed)
    (h : ofJson v = .ok i) : i.Keyed := by
  obtain ⟨r, hr, h⟩ := bind_eq_ok.1 h
  obtain ⟨contact, hcontact, h⟩ := bind_eq_ok.1 h
  obtain ⟨r', hr', hcontact⟩ := bind_eq_ok.1 hcontact
  have hmember : ∀ key, (Json.memberD r key .null).WellKeyed :=
    fun key => .memberD (hv.toRecord hr) key Json.wellKeyed_null
  have hv' : (Json.memberD r "contact" (.object [])).WellKeyed :=
    .memberD (hv.toRecord hr) _ (by simp)
  have hmember' : ∀ key, (Json.memberD r' key (.string "")).WellKeyed :=
    fun key => .memberD (hv'.toRecord hr') key (Json.wellKeyed_string "")
  cases h
  cases hcontact
  rw [keyed_iff]
  exact ⟨hmember _, hmember _, hmember _, hmember _, hmember _, hmember' _, hmember' _, hmember' _⟩

end PrinterConsole
