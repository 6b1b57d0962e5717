/-
  Vocabularies: closed lists of keywords, each with a code.

  A capability, a state or a default is a member of a vocabulary.  Its keyword is what forms and
  saved files carry; its code is a number, and in a vocabulary of flags the code is a power of
  two, so that a set of members is one number.  Such a number may have any bits, also outside the
  vocabulary, and may be negative: a negative number has all bits from some place on.

  A keyword is compared by its `name`: upper case, with underscores.  `folded` brings a text from
  outside to that form, so that case, surrounding blanks and the choice of hyphen or underscore do
  not matter (`ofKeyword?`).

  A set of flags is written as the keywords of its members (`keywordsOf`) and read back by
  `setOfJson`; `Proofs.Keyword.FlagSets` says what the two lose.
-/
import PrinterConsole.Json.Coerce
import PrinterConsole.Text.Blank
import PrinterConsole.Text.Upper

namespace PrinterConsole

open PrinterConsole.Text

/-- A closed list of keywords. -/
class Vocabulary (α : Type) where
  /-- The members, by ascending code. -/
  members : List α
  /-- The keyword of a member: lower case, words joined by hyphens. -/
  keyword : α → String
  /-- The code of a member. -/
  code : α → Nat

namespace Vocabulary

variable {α : Type} [Vocabulary α]

/-- A hyphen becomes an underscore, as the `name` of a member is spelled. -/
def underscored (c : Char) : Char := if c == '-' then '_' else c

/-- The form in which keywords are compared: trimmed, upper case, with underscores; the same as
    `name` for a keyword. -/
def folded (text : String) : String :=
  String.ofList ((upper (trimmed text)).toList.map underscored)

/-- The name of the member `m`: its keyword in upper case with underscores. -/
def name (m : α) : String :=
  String.ofList ((keyword m).toList.map fun c => underscored c.toUpper)

/-- The member that a keyword names, whatever its case, spacing and hyphens; the first of that
    `name`. -/
def ofKeyword? (text : String) : Option α := members.find? fun m => name m == folded text

/-- The member that the value `v` names.  An unset value names none; a set value must be a text. -/
def ofJson? (v : Json) : Except Fault (Option α) :=
  if !v.truthy then .ok none
  else match v with
    | .string s => .ok (ofKeyword? s)
    | _ => .error .notText

/-- The member with the code `n`. -/
def ofCode? (n : Int) : Option α := members.find? fun m => (code m : Int) == n

/-- The member with a code, which must exist; `Fault.unknownCode` otherwise. -/
def ofCode (n : Int) : Except Fault α :=
  match ofCode? n with
  | some m => .ok m
  | none => .error .unknownCode

/-! ## Sets of flags as numbers -/

/-- The number `n` shares a bit with a `set`; a negative set has the bits that its complement has
    not. -/
def sharesBit (n : Nat) (set : Int) : Bool :=
  match set with
  | .ofNat bits => n &&& bits != 0
  | .negSucc absent => n &&& absent != n

/-- The bit of the member `m` is set.  A member with the code 0 is in no set. -/
def inSet (set : Int) (m : α) : Bool := sharesBit (code m) set

/-- The members whose bit is set, by ascending code, in the order of `members`. -/
def membersIn (α : Type) [Vocabulary α] (set : Int) : List α := members.filter (inSet set)

/-- The keywords of the members whose bit is set (`inSet`), by ascending code. -/
def keywordsOf (α : Type) [Vocabulary α] (set : Int) : List String :=
  (membersIn α set).map keyword

/-- The set of the members for which `p` holds, their codes joined bit by bit. -/
def setWhere (p : α → Bool) : Int :=
  (((members.filter p).map code).foldl (· ||| ·) 0 : Nat)

/-- The set of the members listed in `ms`; a member that is listed twice counts once. -/
def setOf [BEq α] (ms : List α) : Int := setWhere fun m => ms.contains m

/-- The set of all members of `α`. -/
def fullSet (α : Type) [Vocabulary α] : Int := setWhere fun _ : α => true

/-- A `set` as a number without a sign: a negative number is read in the bits of the vocabulary, or
    in as many bits as it needs. -/
def unsigned (α : Type) [Vocabulary α] (set : Int) : Int :=
  let bound := fullSet α + 1
  if 0 ≤ set then set
  else if -bound ≤ set then bound + set
  else Nat.pow 2 (set.natAbs.log2 + 1) + set

/-- The members of `α` are flags, or one of them stands for the empty set. -/
def hasEmptySet (α : Type) [Vocabulary α] : Bool :=
  let codes := (members : List α).map code
  codes.any (· == 0) || codes.all fun n => n &&& (n - 1) == 0

/-- The set of the members that the `items` name; an item that names none is passed over, and one
    that is no text is a fault. -/
def setOfItems (α : Type) [Vocabulary α] [BEq α] (items : List Json) : Except Fault Int := do
  let found ← items.mapM fun v => (ofJson? v : Except Fault (Option α))
  return setOf (found.filterMap id)

/-- The set that the value `v` names: the value is a list of keywords, or unset. -/
def setOfJson (α : Type) [Vocabulary α] [BEq α] (v : Json) : Except Fault Int :=
  if !hasEmptySet α then .error .unknownCode
  else if !v.truthy then .ok 0
  else do
    let items ← v.toItems
    setOfItems α items

end Vocabulary

end PrinterConsole
