/-
  Results that may be faults: what a chain of steps that came to its end says about its steps.

  Everything that reads something is a chain in `Except Fault`, mostly with a list that is read
  item by item.  The lemmas here take such a chain apart, so that no proof has to open `bind` or
  `mapM`: from a chain that succeeded to its steps and back, and from a list to its items and
  back.

  Main statements: a chain succeeds exactly if each of its steps does (`bind_eq_ok`), and reading
  a list item by item succeeds exactly if every item can be read (`exists_mapM_ok_iff`); it gives
  results of its items (`exists_of_mapM_ok`), in their order (`map_of_mapM_ok`), and all of them
  back if they were written so (`mapM_of_forall_ok`).
-/
import PrinterConsole.Fault

namespace PrinterConsole

theorem ok_bind {α β : Type} (a : α) (f : α → Except Fault β) : (Except.ok a >>= f) = f a := rfl

/-- A chain succeeds exactly if its first step does and the rest does with what that gave, `a`. -/
theorem bind_eq_ok {α β : Type} {x : Except Fault α} {f : α → Except Fault β} {b : β} :
    (x >>= f) = .ok b ↔ ∃ a, x = .ok a ∧ f a = .ok b := by
  cases x with
  | error e =>
    constructor
    · intro h
      cases h
    · rintro ⟨a, ha, -⟩
      cases ha
  | ok a =>
    rw [ok_bind]
    constructor
    · exact fun h => ⟨a, rfl, h⟩
    · rintro ⟨a', ha, h⟩
      cases ha
      exact h

theorem exists_eq_ok {α : Type} {x : Except Fault α} (h : x.toOption.isSome = true) :
    ∃ a, x = .ok a := by
  cases x with
  | ok a => exact ⟨a, rfl⟩
  | error e => cases h

/-- The result can be computed, by `Except.toOption`. -/
theorem eq_ok_of_toOption {α : Type} {x : Except Fault α} {a : α} (h : x.toOption = some a) :
    x = .ok a := by
  cases x with
  | ok b => exact congrArg Except.ok (Option.some.inj h)
  | error e => cases h

theorem map_eq_ok {α β : Type} {f : α → β} {x : Except Fault α} {b : β} :
    x.map f = .ok b ↔ ∃ a, x = .ok a ∧ f a = b := by
  cases x <;> simp [Except.map]

theorem map_eq_error {α β : Type} {f : α → β} {x : Except Fault α} {e : Fault} :
    x.map f = .error e ↔ x = .error e := by
  cases x <;> simp [Except.map]

theorem map_isOk_iff {α β : Type} {f : α → β} {x : Except Fault α} :
    (∃ b, x.map f = .ok b) ↔ ∃ a, x = .ok a := by
  cases x with
  | ok a => exact iff_of_true ⟨f a, rfl⟩ ⟨a, rfl⟩
  | error e => exact iff_of_false nofun nofun

/-- Every result of a list (`List.mapM`) comes from an item of it. -/
theorem exists_of_mapM_ok {α β : Type} {f : α → Except Fault β} {items : List α} {results : List β}
    (h : items.mapM f = .ok results) : ∀ b ∈ results, ∃ a ∈ items, f a = .ok b := by
  induction items generalizing results with
  | nil =>
    cases h
    simp
  | cons a rest ih =>
    rw [List.mapM_cons, bind_eq_ok] at h
    obtain ⟨b, hb, h⟩ := h
    obtain ⟨bs, hbs, h⟩ := bind_eq_ok.1 h
    cases h
    intro c hc
    rcases List.mem_cons.1 hc with rfl | hc
    · exact ⟨a, List.mem_cons_self, hb⟩
    · obtain ⟨a', ha', hfa⟩ := ih hbs c hc
      exact ⟨a', List.mem_cons_of_mem _ ha', hfa⟩

/-- By `List.mapM` a list gives results exactly if every item does. -/
theorem exists_mapM_ok_iff {α β : Type} {f : α → Except Fault β} {items : List α} :
    (∃ results, items.mapM f = .ok results) ↔ ∀ a ∈ items, ∃ b, f a = .ok b := by
  induction items with
  | nil => exact iff_of_true ⟨[], rfl⟩ (List.forall_mem_nil _)
  | cons a rest ih =>
    rw [List.forall_mem_cons, ← ih]
    constructor
    · rintro ⟨results, h⟩
      rw [List.mapM_cons, bind_eq_ok] at h
      obtain ⟨b, hb, h⟩ := h
      obtain ⟨bs, hbs, -⟩ := bind_eq_ok.1 h
      exact ⟨⟨b, hb⟩, bs, hbs⟩
    · rintro ⟨⟨b, hb⟩, bs, hbs⟩
      refine ⟨b :: bs, ?_⟩
      rw [List.mapM_cons, hb, hbs]
      rfl

/-- If every item gives a result by `f`, the list gives the list of them. -/
theorem mapM_eq_ok_map {α β : Type} {f : α → Except Fault β} {g : α → β} {items : List α}
    (h : ∀ a ∈ items, f a = .ok (g a)) : items.mapM f = .ok (items.map g) := by
  induction items with
  | nil => rfl
  | cons a rest ih =>
    rw [List.forall_mem_cons] at h
    rw [List.mapM_cons, h.1, ih h.2]
    rfl

/-- If every item gives a result by `g` that is made of another result, so does the list: two
    readings of one list, item by item. -/
theorem mapM_of_mapM_ok {α β γ : Type} {f : α → Except Fault β} {g : α → Except Fault γ} {h : β → γ}
    {items : List α} {results : List β} (hf : items.mapM f = .ok results)
    (hg : ∀ a ∈ items, ∀ b, f a = .ok b → g a = .ok (h b)) :
    items.mapM g = .ok (results.map h) := by
  induction items generalizing results with
  | nil =>
    cases hf
    rfl
  | cons a rest ih =>
    rw [List.mapM_cons, bind_eq_ok] at hf
    obtain ⟨b, hb, hf⟩ := hf
    obtain ⟨bs, hbs, hf⟩ := bind_eq_ok.1 hf
    cases hf
    rw [List.forall_mem_cons] at hg
    rw [List.mapM_cons, hg.1 b hb, ih hbs hg.2]
    rfl

theorem map_of_mapM_ok {α β γ : Type} {f : α → Except Fault β} {h : β → γ} {k : α → γ}
    {items : List α} {results : List β} (hf : items.mapM f = .ok results)
    (hk : ∀ a ∈ items, ∀ b, f a = .ok b → h b = k a) : results.map h = items.map k := by
  have hmapped : items.mapM (fun a => (.ok (k a) : Except Fault γ)) = .ok (results.map h) :=
    mapM_of_mapM_ok hf fun a ha b hb => congrArg Except.ok (hk a ha b hb).symm
  rw [mapM_eq_ok_map fun _ _ => rfl] at hmapped
  exact (Except.ok.inj hmapped).symm

/-- If every item comes back from `write`, so does the list. -/
theorem mapM_of_forall_ok {α β : Type} {write : α → β} {read : β → Except Fault α}
    (h : ∀ a, read (write a) = .ok a) (items : List α) :
    (items.map write).mapM read = .ok items := by
  have hread : items.mapM (read ∘ write) = .ok (items.map id) := mapM_eq_ok_map fun a _ => h a
  rw [List.mapM_map, hread, List.map_id]

end PrinterConsole
