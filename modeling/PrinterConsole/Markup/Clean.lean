/-
  Cleaning a submitted text: its markup is dropped and its character references are read.

  After scanning, the texts between the seams are written as markup text: control characters
  become question marks, a well-formed reference stays, and any other `&`, `<` or `>` is escaped.
  Reading the references of the result once (`resolve`) then gives plain text.

  Markup is dropped before references are read and not again afterwards, so a text whose
  references spell a tag is cleaned to that tag.  Which texts are cleaned to one without tags is
  said by `Proofs.Markup.Tags`.

  Main statement: a cleaned text is within its limit (`length_clean_le`).
-/
import PrinterConsole.Markup.Reference
import PrinterConsole.Markup.Scan
import PrinterConsole.Text.Blank

namespace PrinterConsole.Markup

open PrinterConsole.Text

/-! ## Writing text as markup -/

/-- Escapes the three characters that markup text must not hold; any other stands for itself. -/
def escapeChar (c : Char) : List Char :=
  if c = '&' then ['&', 'a', 'm', 'p', ';']
  else if c = '<' then ['&', 'l', 't', ';']
  else if c = '>' then ['&', 'g', 't', ';']
  else [c]

/-- The text `cs` with these three characters escaped (`escapeChar`). -/
def escapeText (cs : List Char) : List Char := cs.flatMap escapeChar

/-- The character `c` is a control character without a visible form: every one below the space but
    tabulator, line feed and return. -/
def isInvisible (c : Char) : Bool :=
  let n := c.toNat
  n ≤ 8 || n == 11 || n == 12 || (14 ≤ n && n ≤ 31)

/-- The character `c` ends a reference. -/
def endsReference (c : Char) : Bool :=
  c == '<' || c == '&' || c == '=' || c == ';' || c == ' ' || (9 ≤ c.toNat && c.toNat ≤ 13)

/-- The digits of a reference by number.  A first character of `cs` that is no digit is passed
    over. -/
def numberBody (isDigit : Char → Bool) (cs : List Char) : List Char × List Char :=
  let ds := cs.takeWhile fun c => isDigit c && !endsReference c
  match cs.dropWhile fun c => isDigit c && !endsReference c with
  | [] => (ds, [])
  | c :: rest => (ds, if endsReference c then c :: rest else rest)

/-- The reference that begins after an ampersand, without its semicolon, which has to be there.  A
    number may have no digits; a name must be the start of a known one (`isNameStart`). -/
def referenceAt (cs : List Char) : Option (List Char) :=
  match cs with
  | '#' :: rest =>
    let (mark, body) :=
      match rest with
      | x :: more =>
        if x = 'x' ∨ x = 'X' then (['#', x], numberBody isHexDigit more)
        else (['#'], numberBody isAsciiDigit rest)
      | [] => (['#'], ([], []))
    if body.2.head? = some ';' then some (mark ++ body.1) else none
  | _ =>
    let name := cs.takeWhile fun c => !endsReference c
    if !name.isEmpty && isNameStart name && (cs.drop name.length).head? == some ';' then some name
    else none

/-- What stands between two ampersands, with the first of them: it begins with a reference
    (`referenceAt`), or the ampersand is escaped as well. -/
def writePart (part : List Char) : List Char :=
  match referenceAt part with
  | some entity =>
    '&' :: entity ++ ';' :: escapeText (part.drop (entity.length + 1))
  | none => escapeText ('&' :: part)

/-- Writes text as markup, part by part between its ampersands (`writePart`). -/
def writeMiddle (cs : List Char) : List Char :=
  match splitOn '&' (cs.map fun c => if isInvisible c then '?' else c) with
  | [] => []
  | first :: parts => escapeText first ++ parts.flatMap writePart

/-- Writes the text between two seams as markup; the white space around it stays as it is.  What
    stands around it decides nothing, so seams keep a reference from being made up of two texts. -/
def writeSegment (cs : List Char) : List Char :=
  let left := cs.takeWhile isSpace
  let rest := cs.dropWhile isSpace
  let right := (rest.reverse.takeWhile isSpace).reverse
  let middle := (rest.reverse.dropWhile isSpace).reverse
  left ++ writeMiddle middle ++ right

/-- The text `cs` without its markup (`scan`), written as markup text. -/
def withoutTags (cs : List Char) : List Char := (segments (scan cs)).flatMap writeSegment

/-! ## Cleaning -/

/-- The plain text of a submitted text: without markup and surrounding white space, and cut to
    `limit` characters.

    It is trimmed twice, since references may stand for blanks, and cut last, so the cut text may
    end in a blank. -/
def clean (limit : Nat) (text : String) : Except Fault String := do
  let cs := trim text.toList
  if cs.isEmpty then return ""
  let plain ← resolve (withoutTags cs)
  return String.ofList ((trim plain).take limit)

/-- A cleaned text has at most `limit` characters: the cut is the last step, and a blank text gives
    nothing. -/
theorem length_clean_le {limit : Nat} {text plain : String} (h : clean limit text = .ok plain) :
    plain.length ≤ limit := by
  unfold clean at h
  dsimp only at h
  split at h
  · cases h; exact Nat.zero_le _
  · cases hr : resolve (withoutTags (trim text.toList)) with
    | error e => rw [hr] at h; cases h
    | ok cs =>
      rw [hr] at h
      cases h
      simp only [String.length_ofList, List.length_take]
      exact Nat.min_le_left _ _

end PrinterConsole.Markup
