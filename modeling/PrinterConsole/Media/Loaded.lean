/-
  Loaded media: what is in a source of the printer.

  An entry with all lengths zero and all names empty (`empty`) means that the source is
  unconfigured.  Names that come from outside are kept as they are, as `Json`.

  An entry is saved as its `record`, whose keys stand in a fixed order, and read by `ofJson`, for
  which an absent member is an empty one.  Its `label` names the source only where two entries
  could not be told apart without it (`hasTwins`).
-/
import PrinterConsole.Keyword.Print
import PrinterConsole.Media.Label

namespace PrinterConsole

/-- Media loaded in one source; lengths in hundredths of a millimetre.  The source is its keyword,
    by which a default is compared with the sources. -/
structure LoadedMedia where
  sizeName : Json
  width : Int
  length : Int
  bottomMargin : Int
  leftMargin : Int
  rightMargin : Int
  topMargin : Int
  leftOffset : Int
  topOffset : Int
  source : Json
  tracking : Option Tracking
  type : Json

namespace LoadedMedia

/-- The entry of an unconfigured source: no text, no length and no tracking. -/
def empty : LoadedMedia :=
  ⟨.string "", 0, 0, 0, 0, 0, 0, 0, 0, .string "", none, .string ""⟩

instance : Inhabited LoadedMedia := ⟨empty⟩

/-- Printed to the edge: no margin is set, which is how a page tells it. -/
def isBorderless (m : LoadedMedia) : Bool :=
  m.bottomMargin == 0 && m.leftMargin == 0 && m.rightMargin == 0 && m.topMargin == 0

/-- The members of the record of the entry `m`; no tracking is the empty keyword. -/
def record (m : LoadedMedia) : List (String × Json) :=
  [("size_name", m.sizeName),
   ("size_width", .int m.width),
   ("size_length", .int m.length),
   ("bottom_margin", .int m.bottomMargin),
   ("left_margin", .int m.leftMargin),
   ("right_margin", .int m.rightMargin),
   ("top_margin", .int m.topMargin),
   ("left_offset", .int m.leftOffset),
   ("top_offset", .int m.topOffset),
   ("source", m.source),
   ("tracking", .string (m.tracking.elim "" Vocabulary.keyword)),
   ("type", m.type)]

/-- The `record` of an entry, as a value to be saved. -/
def toJson (m : LoadedMedia) : Json := .object m.record

/-- A length of a record, by `Json.toWhole`; zero if it is absent. -/
def lengthOf (record : List (String × Json)) (key : String) : Except Fault Int :=
  (Json.memberD record key (.int 0)).toWhole

/-- The entry of a record; absent members are as in `empty`. -/
def ofJson (v : Json) : Except Fault LoadedMedia := do
  let r ← v.toRecord
  let blank := Json.string ""
  return {
    sizeName := Json.memberD r "size_name" blank
    width := ← lengthOf r "size_width"
    length := ← lengthOf r "size_length"
    bottomMargin := ← lengthOf r "bottom_margin"
    leftMargin := ← lengthOf r "left_margin"
    rightMargin := ← lengthOf r "right_margin"
    topMargin := ← lengthOf r "top_margin"
    leftOffset := ← lengthOf r "left_offset"
    topOffset := ← lengthOf r "top_offset"
    source := Json.memberD r "source" blank
    tracking := ← Vocabulary.ofJson? (Json.memberD r "tracking" blank)
    type := Json.memberD r "type" blank }

/-- The label of a name that may be unset; `Label.unknown` then. -/
def labelOr (attr : String) (name : Json) : Except Fault String :=
  if name.truthy then Label.ofJson attr name else .ok Label.unknown

/-- "<size> (<type>)", and "from <source>" where the source has to be told (`withSource`). -/
def label (m : LoadedMedia) (withSource : Bool) : Except Fault String := do
  let size ← labelOr "media" m.sizeName
  let type ← labelOr "media-type" m.type
  if withSource then
    let source ← Label.ofJson "media-source" m.source
    return size ++ " (" ++ type ++ ") from " ++ source
  return size ++ " (" ++ type ++ ")"

/-- The entries `m` and `n` hold media of one size. -/
def sameSize (m n : LoadedMedia) : Bool := m.width == n.width && m.length == n.length

/-- Some two entries hold media of one size of positive width, so that labels need the source to be
    told apart.  An entry is compared with those after it, which is enough because `sameSize` is
    symmetric. -/
def hasTwins : List LoadedMedia → Bool
  | [] => false
  | m :: rest => (0 < m.width && rest.any (sameSize m)) || hasTwins rest

end LoadedMedia

end PrinterConsole
