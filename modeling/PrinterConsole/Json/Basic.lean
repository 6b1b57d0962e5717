/-
  JSON values as they are saved, loaded and passed through unread.

  A saved printer may hold any JSON in the places that are only shown or copied (names, keywords,
  lists of them), so those places keep a `Json`.  An object is a list of members in the order in
  which they were written; a key that is written again keeps its place and takes the new value
  (`put`, and `merge` for several keys).

  `same` is the equality that the console goes by, which is coarser than equality of `Json`:
  numbers are compared by value, whatever their kind, a truth value counts as a number
  (`wholeOfBool`), and the order of members does not matter.  On texts the two agree
  (`same_string_iff`, `string_same`), and keywords are texts, so a keyword is found where it
  stands and nowhere else.

  Main statements: what is put under a key leaves every other key alone (`lookup_put_of_ne`), and
  so does a merge that does not name it (`lookup_merge_of_notMem`).
-/
import PrinterConsole.Number.Binary64

namespace PrinterConsole

open PrinterConsole.Number

/-- A JSON value; whole numbers and fractions are told apart. -/
inductive Json where
  | null
  | bool (b : Bool)
  | int (n : Int)
  | float (x : Binary64)
  | string (s : String)
  | array (items : List Json)
  | object (members : List (String × Json))

namespace Json

instance : Inhabited Json := ⟨null⟩

/-! ## Members -/

/-- The value under `key` among the `members`; the first, should the key occur twice. -/
def lookup (members : List (String × Json)) (key : String) : Option Json :=
  members.findSome? fun m => if m.1 == key then some m.2 else none

/-- The members with `value` under `key`: in its place if the key is there, else at the end. -/
def put (members : List (String × Json)) (key : String) (value : Json) :
    List (String × Json) :=
  match members with
  | [] => [(key, value)]
  | m :: rest => if m.1 == key then (key, value) :: rest else m :: put rest key value

/-- The members with all of `updates` put in, in order, so that of two updates of one key the last
    counts. -/
def merge (members updates : List (String × Json)) : List (String × Json) :=
  updates.foldl (fun ms m => put ms m.1 m.2) members

/-- Putting a value under `key` changes nothing of what is found under `other`, whether the key was
    there or is new. -/
theorem lookup_put_of_ne (members : List (String × Json)) {key other : String} (value : Json)
    (h : other ≠ key) : lookup (put members key value) other = lookup members other := by
  induction members with
  | nil => simp [put, lookup, h.symm]
  | cons m rest ih =>
    unfold put
    split
    · rename_i hm
      have hk : m.1 = key := by simpa using hm
      simp [lookup, hk, h.symm]
    · simp only [lookup, List.findSome?_cons]
      split
      · rfl
      · exact ih

/-- A merge keeps what is found under a key that none of its updates names: `lookup_put_of_ne` along
    the fold. -/
theorem lookup_merge_of_notMem {members updates : List (String × Json)} {key : String}
    (h : key ∉ updates.map Prod.fst) : lookup (merge members updates) key = lookup members key := by
  unfold merge
  induction updates generalizing members with
  | nil => rfl
  | cons m rest ih =>
    rw [List.map_cons, List.mem_cons, not_or] at h
    exact (ih h.2).trans (lookup_put_of_ne members m.2 h.1)

/-! ## Truth and equality -/

/-- Whether a value counts as set: not null, false, zero, or empty. -/
def truthy : Json → Bool
  | null => false
  | bool b => b
  | int n => n != 0
  | float x => !x.isZero
  | string s => !s.isEmpty
  | array items => !items.isEmpty
  | object members => !members.isEmpty

/-- A truth value `b` counts as the number 0 or 1. -/
def wholeOfBool (b : Bool) : Int := if b then 1 else 0

mutual
/-- Equality of values: numbers by their value, whatever their kind; objects whatever the order of
    their members.  It is computed along the first value, with `sameItems` and `sameMembers` for
    what stands inside. -/
def same : Json → Json → Bool
  | null, null => true
  | string s, string t => s == t
  | bool a, bool b => a == b
  | bool a, int n => wholeOfBool a == n
  | int n, bool a => n == wholeOfBool a
  | bool a, float x => x.eqInt (wholeOfBool a)
  | float x, bool a => x.eqInt (wholeOfBool a)
  | int m, int n => m == n
  | int n, float x => x.eqInt n
  | float x, int n => x.eqInt n
  | float x, float y => x.numEq y
  | array xs, array ys => sameItems xs ys
  | object ms, object ns => ms.length == ns.length && sameMembers ms ns
  | _, _ => false

/-- Equality item by item by `same`, for lists of one length. -/
def sameItems : List Json → List Json → Bool
  | [], [] => true
  | x :: xs, y :: ys => same x y && sameItems xs ys
  | _, _ => false

/-- Every member has an equal one, by `same`, under its key.  Together with equal lengths this is
    equality of objects, since no key occurs twice. -/
def sameMembers : List (String × Json) → List (String × Json) → Bool
  | [], _ => true
  | m :: ms, ns =>
    (match lookup ns m.1 with
     | some v => same m.2 v
     | none => false) && sameMembers ms ns
end

/-- Only a text is the `same` as a text, and only that text, so on texts `same` is equality. -/
theorem same_string_iff {v : Json} {t : String} : v.same (.string t) = true ↔ v = .string t := by
  cases v <;> simp [same]

/-- A text may be compared from either side: `same` tells texts by their characters, and no other
    kind of value is the same as one. -/
theorem string_same (t : String) (v : Json) : (string t).same v = v.same (.string t) := by
  cases v with
  | string s => exact Bool.beq_comm
  | _ => rfl

/-- The place of the first item that is the `same` as `x`. -/
def indexIn? (x : Json) (items : List Json) : Option Nat := items.findIdx? (same · x)

end Json

end PrinterConsole
