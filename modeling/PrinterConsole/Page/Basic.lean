/-
  Pages: fixed markup with values in it.

  A page is a list of pieces.  A value is written so that it can neither open nor close markup,
  wherever it stands (`escape`).  One kind of place is filled only when the page is delivered: the
  token of the session.

  Since markup and values are told apart in the type, what a page is made of can be read off it
  before it is text: `needsToken` asks whether it has a form, and `structureOf` its text for the
  characters that open and close markup, which are those of the fixed pieces alone.

  Main statements: an escaped text has no angle bracket and no quote (`isStructural_escape`), so
  the brackets and quotes of a page are those of its fixed parts (`structure_text`).
-/
import PrinterConsole.Json.Display

namespace PrinterConsole

/-! ## Escaping -/

/-- A character of a value as it is written into a page: five characters are written as
    references. -/
def Page.escapeChar : Char → List Char
  | '&' => ['&', 'a', 'm', 'p', ';']
  | '<' => ['&', 'l', 't', ';']
  | '>' => ['&', 'g', 't', ';']
  | '\'' => ['&', '#', '3', '9', ';']
  | '"' => ['&', '#', '3', '4', ';']
  | c => [c]

/-- The value `s` as it is written into a page. -/
def Page.escape (s : String) : String := String.ofList (s.toList.flatMap Page.escapeChar)

/-! ## Pieces -/

/-- A piece of a page. -/
inductive Page.Piece where
  /-- Markup, written as it is. -/
  | fixed (s : String)
  /-- A text, written so that it is no markup. -/
  | value (s : String)
  /-- The token of the session. -/
  | token
  deriving DecidableEq, Repr

/-- A page, or a part of one; parts are put together by `++`. -/
structure Page where
  pieces : List Page.Piece
  deriving DecidableEq, Repr

namespace Page

/-- The page without anything. -/
def empty : Page := ⟨[]⟩

instance : Inhabited Page := ⟨empty⟩

instance : Append Page := ⟨fun p q => ⟨p.pieces ++ q.pieces⟩⟩

/-- Fixed markup; a string literal becomes it by itself. -/
def fixed (s : String) : Page := ⟨[.fixed s]⟩

instance : Coe String Page := ⟨fixed⟩

/-- A text, which `Piece.text` will escape. -/
def value (s : String) : Page := ⟨[.value s]⟩

/-- The whole number `n`, which has nothing to escape. -/
def number (n : Int) : Page := value (Number.intText n)

/-- A value that a person or a file gave, as `Json.shown` writes it. -/
def shown (v : Json) : Page := value v.shown

/-- The token of the session. -/
def token : Page := ⟨[.token]⟩

/-- A part that is there only under the `condition`. -/
def when (condition : Bool) (p : Page) : Page := if condition then p else empty

/-- The parts `ps` one after the other. -/
def concat (ps : List Page) : Page := ⟨ps.flatMap Page.pieces⟩

/-- One `part` for each item. -/
def each {α : Type} (items : List α) (part : α → Page) : Page := concat (items.map part)

/-! ## Text -/

/-- The text of a piece in a session with the given `token`; the token is escaped like a value. -/
def Piece.text (token : String) : Piece → String
  | .fixed s => s
  | .value s => escape s
  | .token => escape token

/-- The text of a page in a session with the given `token`. -/
def text (p : Page) (token : String) : String := String.join (p.pieces.map (Piece.text token))

/-- The page `p` has a place for the token, hence a form. -/
def needsToken (p : Page) : Bool := p.pieces.any (· == .token)

/-! ## Structure -/

/-- The character `c` can open or close markup, or a quoted part of it. -/
def isStructural (c : Char) : Bool := c == '<' || c == '>' || c == '"'

/-- The structural characters of the text `s`. -/
def structureOf (s : String) : List Char := s.toList.filter isStructural

/-- No character of an escaped character (`escapeChar`) is structural: a reference has neither
    brackets nor quotes. -/
theorem all_escapeChar (c : Char) : (escapeChar c).all (fun d => !isStructural d) = true := by
  unfold escapeChar
  split
  case h_6 hamp hlt hgt hapos hquot =>
    have hb : isStructural c = false := by
      simp only [isStructural, Bool.or_eq_false_iff, beq_eq_false_iff_ne]
      exact ⟨⟨hlt, hgt⟩, hquot⟩
    simp [hb]
  all_goals rfl

/-- The same as `all_escapeChar`, for one character that stands in it. -/
theorem isStructural_escapeChar {c d : Char} (h : d ∈ escapeChar c) : isStructural d = false := by
  have hd := List.all_eq_true.1 (all_escapeChar c) d h
  simpa using hd

theorem isStructural_escape {s : String} {c : Char} (h : c ∈ (escape s).toList) :
    isStructural c = false := by
  simp only [escape, String.toList_ofList, List.mem_flatMap] at h
  obtain ⟨b, _, hc⟩ := h
  exact isStructural_escapeChar hc

/-- An escaped text (`escape s`) adds nothing to the structure of a page. -/
theorem structureOf_escape (s : String) : structureOf (escape s) = [] := by
  simp only [structureOf, List.filter_eq_nil_iff]
  intro c hc
  simp [isStructural_escape hc]

/-- The `fixed` part of a piece, empty for a value and for the token. -/
def Piece.fixedText : Piece → String
  | .fixed s => s
  | _ => ""

/-- The structure of a piece is that of its fixed part (`Piece.fixedText`), in every session: values
    and the token are escaped. -/
theorem structureOf_piece (token : String) (p : Piece) :
    structureOf (p.text token) = structureOf p.fixedText := by
  cases p with
  | fixed s => rfl
  | value s => exact structureOf_escape s
  | token => exact structureOf_escape token

theorem toList_join (ss : List String) : (String.join ss).toList = ss.flatMap String.toList := by
  simp [String.toList_join]

/-- The structure of the page `p` is that of its fixed pieces in a row, whatever its values and the
    token are. -/
theorem structure_text (p : Page) (token : String) :
    structureOf (p.text token) = p.pieces.flatMap fun piece => structureOf piece.fixedText := by
  simp only [structureOf, text, toList_join, List.flatMap_map, List.filter_flatMap]
  congr 1
  funext piece
  exact structureOf_piece token piece

end Page

end PrinterConsole
