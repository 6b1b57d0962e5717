/-
  Parts of texts: beginnings, occurrences, and splitting at a character.

  Texts are looked at as lists of characters, so that a text is taken apart by the structure of
  its list.  `splitOn` always gives at least one piece, also of the empty text.

  Main statement: a text begins with `front` exactly when it is `front` and a rest
  (`startsWith_iff`).
-/

namespace PrinterConsole.Text

/-- `s` begins with `front`; every text begins with the empty one. -/
def startsWith (front s : String) : Bool := front.toList.isPrefixOf s.toList

/-- `part` occurs in `cs`. -/
def containsPart (part : List Char) : List Char → Bool
  | [] => part.isEmpty
  | c :: cs => part.isPrefixOf (c :: cs) || containsPart part cs

/-- `part` occurs in `s`. -/
def contains (part s : String) : Bool := containsPart part.toList s.toList

/-- The pieces between the occurrences of `sep`, of which there is one more than of `sep`. -/
def splitOn (sep : Char) : List Char → List (List Char)
  | [] => [[]]
  | c :: cs =>
    if c = sep then [] :: splitOn sep cs
    else match splitOn sep cs with
      | piece :: rest => (c :: piece) :: rest
      | [] => [[c]]

/-- Beginning with `front` as an equation: what follows is `rest`, which is then unique. -/
theorem startsWith_iff {front s : String} :
    startsWith front s ↔ ∃ rest, s.toList = front.toList ++ rest := by
  rw [startsWith, List.isPrefixOf_iff_prefix]
  exact ⟨fun ⟨r, h⟩ => ⟨r, h.symm⟩, fun ⟨r, h⟩ => ⟨r, h.symm⟩⟩

end PrinterConsole.Text
