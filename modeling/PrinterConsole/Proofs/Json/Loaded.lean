/-
  What is read has members with keys of their own.

  A member whose key was read before takes that one's place, so however often a text writes a key,
  the object that is read has it once (`nodup_put`).  The induction is on the fuel of the readers,
  and it carries the items and the members that were read so far (`ReadsKeyed`): three statements
  in one structure, since the readers call each other.

  Main statement: whatever a text is read as is well keyed (`wellKeyed_of_read`).
-/
import PrinterConsole.Json.Reader
import PrinterConsole.Proofs.Json.Keys

namespace PrinterConsole.Json

/-! ## Putting members

  A member that is put in for a key takes the place of the one there was, so keys stay apart. -/

/-- What is among members after a `put` was there before, or is the member that was put. -/
theorem mem_put {members : List (String × Json)} {key : String} {v : Json} {m : String × Json}
    (h : m ∈ put members key v) : m ∈ members ∨ m = (key, v) := by
  induction members with
  | nil => exact .inr (List.mem_singleton.1 h)
  | cons n rest ih =>
    rw [put] at h
    split at h
    · rcases List.mem_cons.1 h with rfl | h
      · exact .inr rfl
      · exact .inl (List.mem_cons_of_mem _ h)
    · rcases List.mem_cons.1 h with rfl | h
      · exact .inl List.mem_cons_self
      · exact (ih h).imp_left (List.mem_cons_of_mem _)

/-- **Putting a member by `put` keeps keys apart**: a new key goes to the end, an old one keeps its
    place. -/
theorem nodup_put {members : List (String × Json)} (h : (members.map (·.1)).Nodup) (key : String)
    (v : Json) : ((put members key v).map (·.1)).Nodup := by
  induction members with
  | nil => exact List.nodup_singleton key
  | cons n rest ih =>
    rw [List.map_cons, List.nodup_cons] at h
    obtain ⟨hn, hrest⟩ := h
    rw [put]
    split
    · rename_i hkey
      rw [beq_iff_eq] at hkey
      subst hkey
      exact List.nodup_cons.2 ⟨hn, hrest⟩
    · rename_i hkey
      rw [List.map_cons, List.nodup_cons]
      refine ⟨fun hmem => ?_, ih hrest⟩
      obtain ⟨m, hm, hmn⟩ := List.mem_map.1 hmem
      rcases mem_put hm with hm | rfl
      · exact hn (hmn ▸ List.mem_map_of_mem hm)
      · exact hkey (by simpa using hmn.symm)

/-- Members that were `put` together are well keyed. -/
theorem wellKeyed_put {members : List (String × Json)} (h : (object members).WellKeyed)
    (key : String) {v : Json} (hv : v.WellKeyed) : (object (put members key v)).WellKeyed := by
  rw [wellKeyed_object] at h ⊢
  refine ⟨nodup_put h.1 key v, fun m hm => ?_⟩
  rcases mem_put hm with hm | rfl
  · exact h.2 m hm
  · exact hv

/-! ## Readers

  The three readers go with less fuel each time, as they call each other; what they read has no key
  twice, because members are put in. -/

theorem wellKeyed_of_readNumber {negative : Bool} {cs rest : List Char} {v : Json}
    (h : readNumber negative cs = .ok (v, rest)) : v.WellKeyed := by
  unfold readNumber at h
  dsimp only at h
  split at h
  · cases h
  · split at h <;> split at h <;> cases h <;> trivial

/-- No value without parts (`readScalar`) has members. -/
theorem wellKeyed_of_readScalar {cs rest : List Char} {v : Json}
    (h : readScalar cs = .ok (v, rest)) : v.WellKeyed := by
  unfold readScalar at h
  split at h
  case h_7 => exact wellKeyed_of_readNumber h
  case h_8 => exact wellKeyed_of_readNumber h
  all_goals
    cases h
    trivial

/-- What the three readers give with the `fuel` is `WellKeyed`. -/
structure ReadsKeyed (fuel : Nat) : Prop where
  value : ∀ {cs rest v}, readValue fuel cs = .ok (v, rest) → v.WellKeyed
  items : ∀ {acc cs rest v}, (array acc).WellKeyed → readItems fuel acc cs = .ok (v, rest) →
    v.WellKeyed
  members : ∀ {acc cs rest v}, (object acc).WellKeyed → readMembers fuel acc cs = .ok (v, rest) →
    v.WellKeyed

/-- One more step of fuel for a value: only an object has keys of its own, and its members are `put`
    in. -/
theorem ReadsKeyed.value_succ {fuel : Nat} (ih : ReadsKeyed fuel) {cs rest : List Char} {v : Json}
    (h : readValue (fuel + 1) cs = .ok (v, rest)) : v.WellKeyed := by
  rw [readValue.eq_def] at h
  dsimp only at h
  split at h
  · rename_i body
    cases hs : readString body with
    | error e =>
      rw [hs] at h
      cases h
    | ok p =>
      rw [hs] at h
      cases h
      trivial
  · split at h
    · cases h
      simp
    · exact ih.items (by simp) h
  · split at h
    · cases h
      simp
    · exact ih.members (by simp) h
  · exact wellKeyed_of_readScalar h

/-- One more step of `fuel` for items, with those that were read so far in `acc`. -/
theorem ReadsKeyed.items_succ {fuel : Nat} (ih : ReadsKeyed fuel) {acc : List Json}
    {cs rest : List Char} {v : Json} (ha : (array acc).WellKeyed)
    (h : readItems (fuel + 1) acc cs = .ok (v, rest)) : v.WellKeyed := by
  rw [readItems] at h
  split at h
  · cases h
  · rename_i x _ hx
    have hacc : (array (x :: acc)).WellKeyed := by
      rw [wellKeyed_array] at ha ⊢
      exact List.forall_mem_cons.2 ⟨ih.value hx, ha⟩
    split at h
    · cases h
      rw [wellKeyed_array] at hacc ⊢
      exact fun y hy => hacc y (List.mem_reverse.1 hy)
    · exact ih.items hacc h
    · cases h

/-- One more step of fuel for members: the one that is read is put among those so far
    (`wellKeyed_put`). -/
theorem ReadsKeyed.members_succ {fuel : Nat} (ih : ReadsKeyed fuel) {acc : List (String × Json)}
    {cs rest : List Char} {v : Json} (ha : (object acc).WellKeyed)
    (h : readMembers (fuel + 1) acc cs = .ok (v, rest)) : v.WellKeyed := by
  rw [readMembers.eq_def] at h
  dsimp only at h
  split at h
  · split at h
    · cases h
    · rename_i key _ _
      split at h
      · split at h
        · cases h
        · rename_i x _ hx
          have hacc : (object (put acc key x)).WellKeyed := wellKeyed_put ha key (ih.value hx)
          split at h
          · cases h
            exact hacc
          · exact ih.members hacc h
          · cases h
      · cases h
  · cases h

/-- The three readers give well-keyed values with any `fuel`, by the three steps. -/
theorem readsKeyed (fuel : Nat) : ReadsKeyed fuel := by
  induction fuel with
  | zero =>
    constructor
    · intro cs rest v h
      cases h
    · intro acc cs rest v _ h
      cases h
    · intro acc cs rest v _ h
      cases h
  | succ fuel ih => exact ⟨ih.value_succ, ih.items_succ, ih.members_succ⟩

/-- **Whatever a text is read as is `WellKeyed`.** -/
theorem wellKeyed_of_read {text : String} {v : Json} (h : read text = .ok v) : v.WellKeyed := by
  unfold read at h
  dsimp only at h
  split at h
  · cases h
  · rename_i hv
    split at h
    · cases h
      exact (readsKeyed _).value hv
    · cases h

end PrinterConsole.Json
