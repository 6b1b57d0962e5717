/-
  Scanning a text for markup.

  The scanner walks over a text once and keeps what is not markup.  A tag disappears, but the
  start of a block-level element leaves a line break once another tag has been seen (`tagLeaves`).
  A comment leaves a seam: the texts on its two sides are cleaned separately.  What only looks
  like markup stays text: a `<` before anything that cannot begin a tag, an end tag without a
  name, and a tag that is still unfinished when the text ends in its name, in an attribute name or
  in an unquoted value (`finish`).

  The states are those of a hypertext tokenizer.  A state carries what it may have to give back as
  text (in reverse), and every character is looked at once: `step` is one character, `scanFrom`
  the walk from any state, and `scan` the walk over a whole text, its line ends made line feeds.
  A law about scanning is therefore proved along `scanFrom`, one state at a time.
-/

namespace PrinterConsole.Markup

/-- What `scan` keeps: a character of text, or a seam between two texts. -/
inductive Kept where
  | char (c : Char)
  | seam
  deriving DecidableEq, Repr

/-- Where the scanner is inside a tag.  Only `quotedValue` can be left by nothing but its own
    quote. -/
inductive TagPlace where
  | name
  | beforeAttribute
  | attributeName
  | afterAttributeName
  | beforeValue
  | quotedValue (quote : Char)
  | plainValue
  | afterValue
  | solidus
  deriving DecidableEq, Repr

/-- Where the scanner is. -/
inductive State where
  | text
  /-- After `<`. -/
  | tagOpen
  /-- After an end tag's solidus. -/
  | endTagOpen
  /-- After `<!`, with the characters read since. -/
  | declaration (seen : List Char)
  /-- In markup that ends at the next `>`; kept as text if `raw` holds what was read of it. -/
  | skipped (raw : Option (List Char))
  | commentStart
  | commentStartDash
  | comment
  | commentEndDash
  | commentEnd
  | commentEndBang
  | documentType
  /-- In a tag: its kind, its name in reverse, and all of it in reverse. -/
  | tag (isStart : Bool) (name raw : List Char) (place : TagPlace)
  deriving DecidableEq, Repr

/-! ## Character classes -/

/-- The character `c` is a letter, which can begin the name of a tag. -/
def isLetter (c : Char) : Bool := ('a' ≤ c && c ≤ 'z') || ('A' ≤ c && c ≤ 'Z')

/-- White space inside markup; fewer characters than `isBlank`, and all of them ASCII. -/
def isSpace (c : Char) : Bool :=
  c == '\t' || c == '\n' || c == '\x0c' || c == ' ' || c == '\r'

/-- Elements that begin on a line of their own. -/
def blockLevel : List String := [
  "address", "article", "aside", "blockquote", "dd", "details", "dialog", "div", "dl", "dt",
  "fieldset", "figcaption", "figure", "footer", "form", "h1", "h2", "h3", "h4", "h5", "h6",
  "header", "hgroup", "hr", "li", "main", "nav", "ol", "p", "pre", "section", "table", "ul"]

/-! ## One character -/

/-- The lower case of the letter `c` of a tag name; the Kelvin sign is a capital k. -/
def lowerLetter (c : Char) : Char := if c = '\u212a' then 'k' else c.toLower

/-- What a finished tag leaves: a line break for the start of a block-level element (`blockLevel`),
    once a tag was seen before. -/
def tagLeaves (seenTag isStart : Bool) (name : List Char) : List Kept :=
  let lower := String.ofList (name.reverse.map lowerLetter)
  if seenTag && isStart && blockLevel.contains lower then [.char '\n'] else []

/-- A character of text: the character null is dropped, and a `<` opens what may be a tag. -/
def textStep (c : Char) : List Kept × State :=
  if c = '<' then ([], .tagOpen)
  else if c = '\x00' then ([], .text)
  else ([.char c], .text)

/-- A character of markup that ends at the next `>`.  With `raw` it comes back as text there,
    without it leaves a seam. -/
def skippedStep (raw : Option (List Char)) (c : Char) : List Kept × State :=
  let raw := raw.map (c :: ·)
  if c = '>' then
    (match raw with
     | some cs => cs.reverse.map .char
     | none => [.seam], .text)
  else ([], .skipped raw)

/-- The word after which a declaration names a document type. -/
def documentTypeWord : List Char := ['d', 'o', 'c', 't', 'y', 'p', 'e']

/-- A character after `<!`: a comment, a document type, or anything else, which is skipped to the
    next `>`. -/
def declarationStep (seen : List Char) (c : Char) : List Kept × State :=
  let now := seen ++ [c]
  if now = ['-', '-'] then ([], .commentStart)
  else if now = ['-'] then ([], .declaration now)
  else if now.map Char.toLower = documentTypeWord then ([], .documentType)
  else if (now.map Char.toLower).isPrefixOf documentTypeWord then ([], .declaration now)
  else skippedStep none c

/-- The `TagPlace` after the character `c` at which an attribute may begin. -/
def attributePlace (c : Char) : TagPlace :=
  if isSpace c then .beforeAttribute
  else if c = '/' then .solidus
  else .attributeName

/-- The place after a character inside a tag other than a closing `>`; the one state change that
    depends on the place alone. -/
def placeAfter (place : TagPlace) (c : Char) : TagPlace :=
  match place with
  | .name =>
    if isSpace c then .beforeAttribute else if c = '/' then .solidus else .name
  | .beforeAttribute => attributePlace c
  | .attributeName =>
    if c = '=' then .beforeValue
    else if isSpace c then .afterAttributeName
    else if c = '/' then .solidus
    else .attributeName
  | .afterAttributeName =>
    if isSpace c then .afterAttributeName
    else if c = '=' then .beforeValue
    else if c = '/' then .solidus
    else .attributeName
  | .beforeValue =>
    if isSpace c then .beforeValue
    else if c = '"' || c = '\'' then .quotedValue c
    else .plainValue
  | .quotedValue quote => if c = quote then .afterValue else .quotedValue quote
  | .plainValue => if isSpace c then .beforeAttribute else .plainValue
  | .afterValue => attributePlace c
  | .solidus => attributePlace c

/-- A quoted value may hold a `>`. -/
def TagPlace.holdsBracket : TagPlace → Bool
  | .quotedValue _ => true
  | _ => false

/-- One character: what is kept, and where the scanner is after it.  `seenTag` says whether a tag
    has ended before, which only a block-level element asks for. -/
def step (seenTag : Bool) (s : State) (c : Char) : List Kept × State :=
  match s with
  | .text => textStep c
  | .tagOpen =>
    if c = '!' then ([], .declaration [])
    else if c = '/' then ([], .endTagOpen)
    else if isLetter c then ([], .tag true [c] [c, '<'] .name)
    else if c = '>' then ([.char '<', .char '>'], .text)
    else if c = '?' then ([], .skipped none)
    else
      let (kept, next) := textStep c
      (.char '<' :: kept, next)
  | .endTagOpen =>
    if isLetter c then ([], .tag false [c] [c, '/', '<'] .name)
    else if c = '>' then ([], .text)
    else skippedStep (some ['/', '<']) c
  | .declaration seen => declarationStep seen c
  | .skipped raw => skippedStep raw c
  | .commentStart =>
    if c = '-' then ([], .commentStartDash)
    else if c = '>' then ([.seam], .text)
    else if c = '\x00' then ([], .commentStart)
    else ([], .comment)
  | .commentStartDash =>
    if c = '-' then ([], .commentEnd)
    else if c = '>' then ([.seam], .text)
    else if c = '\x00' then ([], .commentStartDash)
    else ([], .comment)
  | .comment => ([], if c = '-' then .commentEndDash else .comment)
  | .commentEndDash => ([], if c = '-' then .commentEnd else .comment)
  | .commentEnd =>
    if c = '>' then ([.seam], .text)
    else if c = '!' then ([], .commentEndBang)
    else if c = '-' then ([], .commentEnd)
    else ([], .comment)
  | .commentEndBang =>
    if c = '>' then ([.seam], .text)
    else if c = '-' then ([], .commentEndDash)
    else ([], .comment)
  | .documentType => ([], if c = '>' then .text else .documentType)
  | .tag isStart name raw place =>
    if c = '>' ∧ place.holdsBracket = false then (tagLeaves seenTag isStart name, .text)
    else
      let place' := placeAfter place c
      let name' := if place' = .name then c :: name else name
      ([], .tag isStart name' (c :: raw) place')

/-- A tag ends with the character `c`. -/
def endsTag (s : State) (c : Char) : Bool :=
  match s with
  | .tag _ _ _ place => c == '>' && !place.holdsBracket
  | _ => false

/-- What is kept of markup that is unfinished when the text ends.  Comments, declarations and quoted
    values are lost. -/
def finish : State → List Kept
  | .tagOpen => [.char '<']
  | .endTagOpen => [.char '<', .char '/']
  | .skipped (some raw) => raw.reverse.map .char
  | .tag _ _ raw place =>
    match place with
    | .name | .attributeName | .afterAttributeName | .plainValue => raw.reverse.map .char
    | _ => []
  | _ => []

/-- Scans the rest of a text from the state `s` on. -/
def scanFrom (seenTag : Bool) (s : State) : List Char → List Kept
  | [] => finish s
  | c :: rest =>
    let (kept, next) := step seenTag s c
    kept ++ scanFrom (seenTag || endsTag s c) next rest

/-- The line ends of a text as line feeds (`'\n'`). -/
def lineFeeds : List Char → List Char
  | '\r' :: '\n' :: rest => '\n' :: lineFeeds rest
  | '\r' :: rest => '\n' :: lineFeeds rest
  | c :: rest => c :: lineFeeds rest
  | [] => []

/-- What the text `cs` keeps without its markup. -/
def scan (cs : List Char) : List Kept := scanFrom false .text (lineFeeds cs)

/-- The texts between the seams (`Kept.seam`), at least one. -/
def segments : List Kept → List (List Char)
  | [] => [[]]
  | .seam :: rest => [] :: segments rest
  | .char c :: rest =>
    match segments rest with
    | piece :: more => (c :: piece) :: more
    | [] => [[c]]

end PrinterConsole.Markup
