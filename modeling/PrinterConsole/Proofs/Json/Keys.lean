/-
  Objects whose members have keys of their own.

  An object is a list of members, and nothing in its type keeps a key from standing twice.  Of
  such members a reader takes the first (`lookup`) while a text that is read keeps the last, so
  only values without them survive being written and read.  `WellKeyed` says that of a value and
  of all that is inside it; every value that is loaded has it (`wellKeyed_of_read`), and every
  coercion keeps it.

  The predicate follows the three-fold recursion of the values; the two parts for lists are turned
  into statements about members at once (`wellKeyedItems_iff`, `wellKeyedMembers_iff`), and from
  there on only those are used.
-/
import Mathlib.Data.List.Nodup
import PrinterConsole.Json.Coerce

namespace PrinterConsole.Json

mutual
/-- No object in the value (an `object` at any depth) has two members with one key. -/
def WellKeyed : Json → Prop
  | array items => WellKeyedItems items
  | object members => (members.map (·.1)).Nodup ∧ WellKeyedMembers members
  | _ => True

def WellKeyedItems : List Json → Prop
  | [] => True
  | v :: rest => WellKeyed v ∧ WellKeyedItems rest

def WellKeyedMembers : List (String × Json) → Prop
  | [] => True
  | m :: rest => WellKeyed m.2 ∧ WellKeyedMembers rest
end

theorem wellKeyedItems_iff (items : List Json) :
    WellKeyedItems items ↔ ∀ v ∈ items, v.WellKeyed := by
  induction items with
  | nil => simp [WellKeyedItems]
  | cons v rest ih => rw [WellKeyedItems, ih, List.forall_mem_cons]

/-- Members are well keyed (`WellKeyedMembers`) exactly if the value of each is; their own keys are
    a matter of the object. -/
theorem wellKeyedMembers_iff (members : List (String × Json)) :
    WellKeyedMembers members ↔ ∀ m ∈ members, m.2.WellKeyed := by
  induction members with
  | nil => simp [WellKeyedMembers]
  | cons m rest ih => rw [WellKeyedMembers, ih, List.forall_mem_cons]

@[simp] theorem wellKeyed_null : null.WellKeyed := trivial

@[simp] theorem wellKeyed_bool (b : Bool) : (bool b).WellKeyed := trivial

@[simp] theorem wellKeyed_int (n : Int) : (int n).WellKeyed := trivial

@[simp] theorem wellKeyed_string (s : String) : (string s).WellKeyed := trivial

/-- An `array` is well keyed exactly if each of its items is. -/
@[simp] theorem wellKeyed_array (items : List Json) :
    (array items).WellKeyed ↔ ∀ v ∈ items, v.WellKeyed :=
  wellKeyedItems_iff items

/-- An `object` is well keyed exactly if its keys differ and the value under each is well keyed. -/
@[simp] theorem wellKeyed_object (members : List (String × Json)) :
    (object members).WellKeyed ↔
      (members.map (·.1)).Nodup ∧ ∀ m ∈ members, m.2.WellKeyed := by
  rw [← wellKeyedMembers_iff]
  rfl

/-! ## Members -/

/-- What a `lookup` finds is one of the members. -/
theorem mem_of_lookup {members : List (String × Json)} {key : String} {v : Json}
    (h : lookup members key = some v) : (key, v) ∈ members := by
  obtain ⟨m, hm, heq⟩ := List.exists_of_findSome?_eq_some h
  split at heq
  · rename_i hk
    cases heq
    exact (show m.1 = key by simpa using hk) ▸ hm
  · cases heq

/-- What stands under a key, or `absent` in for it, is well keyed. -/
theorem WellKeyed.memberD {members : List (String × Json)} (hm : ∀ m ∈ members, m.2.WellKeyed)
    (key : String) {absent : Json} (ha : absent.WellKeyed) :
    (memberD members key absent).WellKeyed := by
  unfold Json.memberD
  cases hl : lookup members key with
  | none => exact ha
  | some v => exact hm _ (mem_of_lookup hl)

/-- Among members with keys of their own, the one at the place `i` is found under its `key`. -/
theorem memberD_of_getElem? {members : List (String × Json)} (hn : (members.map (·.1)).Nodup)
    {i : Nat} {key : String} {v : Json} (h : members[i]? = some (key, v)) (absent : Json) :
    memberD members key absent = v := by
  suffices hl : lookup members key = some v by rw [memberD, hl, Option.getD_some]
  induction members generalizing i with
  | nil => cases h
  | cons m rest ih =>
    rw [List.map_cons, List.nodup_cons] at hn
    rw [lookup, List.findSome?_cons]
    cases i with
    | zero =>
      cases h
      simp
    | succ i =>
      rw [List.getElem?_cons_succ] at h
      have hne : m.1 ≠ key := fun he =>
        hn.1 (List.mem_map.2 ⟨_, List.mem_of_getElem? h, he.symm⟩)
      rw [beq_false_of_ne hne]
      exact ih hn.2 h

/-! ## Coercions -/

theorem WellKeyed.toRecord {v : Json} {members : List (String × Json)} (hv : v.WellKeyed)
    (h : v.toRecord = .ok members) : ∀ m ∈ members, m.2.WellKeyed := by
  cases v with
  | object ms =>
    cases h
    exact ((wellKeyed_object _).1 hv).2
  | _ => cases h

/-- The items of a list (`toItems`) are well keyed; those of a text and of an object's keys are
    texts. -/
theorem WellKeyed.toItems {v : Json} {items : List Json} (hv : v.WellKeyed)
    (h : v.toItems = .ok items) : ∀ x ∈ items, x.WellKeyed := by
  cases v with
  | array xs =>
    cases h
    exact (wellKeyed_array _).1 hv
  | string s =>
    cases h
    simp
  | object ms =>
    cases h
    intro x hx
    obtain ⟨m, -, rfl⟩ := List.mem_map.1 hx
    exact wellKeyed_string m.1
  | _ => cases h

end PrinterConsole.Json
